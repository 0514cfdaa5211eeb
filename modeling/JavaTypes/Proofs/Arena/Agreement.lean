import JavaTypes.Proofs.Arena.Meaning
import JavaTypes.Proofs.ClassRef.Named

namespace JavaTypes.Arena

open Text

variable {a b : Arena} {convention : Convention} {settings : Settings} {s t : TypeId}

def resultOf (a : Arena) (settings : Settings) (act : StateM Arena TypeId) :
    Except Halt TypeName :=
  ((act.run a).2.report settings (act.run a).1).result

theorem resultOf_eq {act : StateM Arena TypeId} {r : Except ConversionError TypeName}
    (hb : ∀ t b, Makes act a t b → b.Closed ∧ b.Denotes (settings.effective b.convention) t r) :
    a.resultOf settings act = r.mapError .failed := by
  obtain ⟨hc, hd⟩ := hb _ _ rfl
  exact hd.report_eq hc

theorem Denotes.arrayOf {r : Except ConversionError TypeName} {n : Nat} (ha : a.Closed)
    (hs : a.Denotes convention s r) (h : Makes (arrayOf n s) a t b) :
    b.Closed ∧ b.Denotes convention t (r.map (TypeName.arrayOf n)) := by
  induction n generalizing a s r with
  | zero =>
    obtain ⟨rfl, rfl⟩ := makes_pure.mp h
    refine ⟨ha, ?_⟩
    cases r <;> exact hs
  | succ n ih =>
    obtain ⟨u, c, hu, h⟩ := makes_bind.mp h
    obtain ⟨hac, hu⟩ := grows_addType hu (fits_array hs.hasType)
    obtain ⟨hb, hd⟩ := ih (hac.closed ha) (denotes_array hu (hs.of_extends ha hac.extends)) h
    refine ⟨hb, ?_⟩
    cases r with
    | error err => exact hd
    | ok x =>
      have hx : b.Denotes convention t (.ok (TypeName.arrayOf n (.array x))) := hd
      rwa [TypeName.arrayOf_array] at hx

theorem resultOf_arrayOf (ha : a.Closed) {act : StateM Arena TypeId}
    {r : Except ConversionError TypeName} (n : Nat)
    (h : ∀ s c, Makes act a s c → Grows a c ∧ ∀ convention, c.Denotes convention s r) :
    a.resultOf settings (do arrayOf n (← act)) =
      (r.map (TypeName.arrayOf n)).mapError .failed := by
  apply resultOf_eq
  intro t b hb
  obtain ⟨s, c, hs, hb⟩ := makes_bind.mp hb
  obtain ⟨hac, hd⟩ := h s c hs
  exact (hd _).arrayOf (hac.closed ha) hb

theorem resultOf_classType (ha : a.Closed) (package : String) (outer : List String)
    (own : String) (n : Nat) :
    a.resultOf settings (do arrayOf n (← classType package (outer ++ [own]))) =
      ((ClassName.new package outer own).map fun c => (TypeName.named c).arrayOf n).mapError
        fun e => .failed (.refused e) := by
  have made (s c) (h : Makes (classType package (outer ++ [own])) a s c) :
      Grows a c ∧ ∀ convention, c.Denotes convention s
        (((ClassName.new package outer own).mapError .refused).map .named) := by
    obtain ⟨hac, e, hl, hs⟩ := makes_classType h
    exact ⟨hac, fun _ => denotes_class hl hs⟩
  rw [resultOf_arrayOf ha n made]
  cases ClassName.new package outer own <;> rfl

theorem resultOf_primitive (ha : a.Closed) (p : Primitive) (n : Nat) :
    a.resultOf settings (do arrayOf n (← primitive p)) =
      .ok ((TypeName.primitive p).arrayOf n) := by
  have made (s c) (h : Makes (primitive p) a s c) :
      Grows a c ∧ ∀ convention, c.Denotes convention s (.ok (.primitive p)) := by
    obtain ⟨hac, hs⟩ := grows_addType h ⟨nofun, nofun⟩
    exact ⟨hac, fun _ => denotes_primitive hs⟩
  rw [resultOf_arrayOf ha n made]
  rfl

theorem sources_agree (ha : a.Reachable) (settings : Settings) (n : Nat) :
    (∀ package outer own,
      a.resultOf settings (do arrayOf n (← classType package (outer ++ [own]))) =
        ((ClassName.new package outer own).map fun c => (TypeName.named c).arrayOf n).mapError
          (fun e => .failed (.refused e)) ∧
      ∀ c, ClassName.new package outer own = .ok c →
        (∀ name ∈ outer ++ [own], '$' ∉ name.toList) →
        ∃ r, ClassRef.ofDescriptor (String.ofList (List.replicate n '[') ++
            ("L" ++ reseparated '.' '/' c.binaryName ++ ";")) = .ok r ∧
          r.typeName = .ok ((TypeName.named c).arrayOf n)) ∧
    ∀ p : Primitive,
      a.resultOf settings (do arrayOf n (← primitive p)) =
        .ok ((TypeName.primitive p).arrayOf n) ∧
      ∃ r, ClassRef.ofDescriptor (String.ofList (List.replicate n '[') ++
          String.singleton p.descriptor) = .ok r ∧
        r.typeName = .ok ((TypeName.primitive p).arrayOf n) := by
  refine ⟨fun package outer own => ⟨resultOf_classType ha.closed package outer own n, ?_⟩,
    fun p => ⟨resultOf_primitive ha.closed p n, ?_⟩⟩
  · intro c hc hd
    obtain ⟨rfl, hv⟩ := ClassName.make_eq_ok_iff.mp hc
    have hr := ClassRef.checked_object.mpr (ClassRef.isObjectName_binaryName hv)
    exact ClassRef.typeName_of_descriptor hr nofun (ClassRef.typeName_binaryName hv hd) n
  · obtain ⟨b, rfl⟩ := BaseType.primitive_surjective p
    rw [b.descriptor_primitive]
    exact ClassRef.typeName_of_descriptor (ClassRef.checked_primitive b) nofun rfl n

def entryName : ClassName := ⟨["java", "util"], ["Map"], "Entry"⟩

theorem entryMatrix_agrees :
    mapSession.Reachable ∧
    mapSession.resultOf .default (do arrayOf 2 (← classType "java.util" ["Map", "Entry"])) =
      .ok ((TypeName.named entryName).arrayOf 2) ∧
    ∃ r, ClassRef.ofDescriptor "[[Ljava/util/Map$Entry;" = .ok r ∧
      r.typeName = .ok ((TypeName.named entryName).arrayOf 2) := by
  have h := (sources_agree mapSession_reachable .default 2).1 "java.util" ["Map"] "Entry"
  have hc : ClassName.new "java.util" ["Map"] "Entry" = .ok entryName := by rfl
  have hd : String.ofList (List.replicate 2 '[') ++
      ("L" ++ reseparated '.' '/' entryName.binaryName ++ ";") = "[[Ljava/util/Map$Entry;" := by
    decide
  have hr := h.2 entryName hc (by decide)
  rw [hd] at hr
  refine ⟨mapSession_reachable, ?_, hr⟩
  rw [show ["Map", "Entry"] = ["Map"] ++ ["Entry"] from rfl, h.1, hc]
  rfl

end JavaTypes.Arena
