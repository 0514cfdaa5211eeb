import JavaTypes.Model.Report

namespace JavaTypes

structure TypeRow where
  kind : TypeKind
  component? : Option Nat
  element? : Option Nat
  upperBound? : Option Nat
  arguments : List Nat
  parts : List Nat
  deriving DecidableEq, Repr

structure ElementRow where
  kind : ElementKind
  name : String
  enclosing? : Option Nat
  deriving DecidableEq, Repr

structure Table where
  types : Array TypeRow
  elements : Array ElementRow
  convention : Convention

namespace Table

def typeAt (t : Table) (i : Nat) : TypeRow :=
  t.types[i]?.getD ⟨.none, none, none, none, [], []⟩

def elementAt (t : Table) (i : Nat) : ElementRow :=
  t.elements[i]?.getD ⟨.other, "", none⟩

def model (t : Table) : TypeModel Nat Nat where
  kind i := (t.typeAt i).kind
  component? i := (t.typeAt i).component?
  element? i := (t.typeAt i).element?
  arguments i := (t.typeAt i).arguments
  upperBound? i := (t.typeAt i).upperBound?
  parts i := (t.typeAt i).parts
  elementKind i := (t.elementAt i).kind
  elementName i := (t.elementAt i).name
  enclosing? i := (t.elementAt i).enclosing?
  convention := t.convention

def report (t : Table) (settings : Settings) (root : Nat) : Report :=
  t.model.report settings (TypeModel.allowance t.types.size t.elements.size) root

end Table

end JavaTypes
