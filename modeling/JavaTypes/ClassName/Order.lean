import JavaTypes.ClassName.Basic

namespace JavaTypes.ClassName

def cmp (a b : ClassName) : Ordering :=
  (compare a.canonicalName b.canonicalName).then (compare a.packageName b.packageName)

instance : Ord ClassName := ⟨cmp⟩

def sort (cs : List ClassName) : List ClassName :=
  cs.mergeSort fun a b => (cmp a b).isLE

def sortDistinct (cs : List ClassName) : List ClassName :=
  (sort cs).eraseReps

end JavaTypes.ClassName
