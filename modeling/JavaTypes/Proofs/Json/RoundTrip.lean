import JavaTypes.Proofs.Json.Decoding

namespace JavaTypes

theorem Json.texts_arr (names : List String) : (arr (names.map str)).texts = .ok names := by
  have hm : (names.map str).mapM text = .ok names := by
    induction names with
    | nil => rfl
    | cons n names ih =>
      rw [List.map_cons, List.mapM_cons, ih]
      rfl
  rw [texts, ← hm]
  rfl

theorem ClassName.ofJson_toJson {c : ClassName} (h : c.Valid) : ofJson c.toJson = .ok c := by
  have hp : ofParts (.str c.packageName) (.arr (c.enclosing.map .str)) (.str c.simpleName) =
      .ok c := by
    simp [ofParts, Json.text, Json.texts_arr, h.new_packageName]
  exact hp

theorem Primitive.ofJson_keyword (p : Primitive) : ofJson (.str p.keyword) = .ok p := by
  simp [ofJson, Json.variant, ofKeyword?_keyword]

namespace TypeName

theorem read_tagged {kind : String} {tag : TypeTag} (h : TypeTag.ofText? kind = some tag)
    (value : Json) : read .type (tagged kind value) = readValue tag value := by
  have hk : TypeTag.ofText kind = .ok tag := by
    rw [TypeTag.ofText, h]
    rfl
  simp [tagged, read, Json.variant, hk, readTagged, bind, Except.bind]

theorem read_types {ts : List TypeName} (h : ∀ t ∈ ts, read .type t.toJson = .ok t) :
    read .types (.arr (toJsonAll ts)) = .ok ts := by
  rw [read]
  induction ts with
  | nil => rfl
  | cons t ts ih =>
    have hs : readAll (toJsonAll ts) = .ok ts := ih fun s hs => h s (by simp [hs])
    simp [toJsonAll, readAll, h t (by simp), hs]

theorem read_toJson {t : TypeName} (h : t.Valid) : read .type t.toJson = .ok t := by
  induction t with
  | primitive p =>
    rw [toJson, read_tagged rfl]
    simp [readValue, Primitive.ofJson_keyword]
  | void => rfl
  | null => rfl
  | named c =>
    rw [toJson, read_tagged rfl]
    simp [readValue, ClassName.ofJson_toJson (valid_named.mp h)]
  | array component ih =>
    have hc : read .type component.toJson = .ok component := ih (valid_array.mp h)
    rw [toJson, read_tagged rfl]
    simp [readValue, readMembers, Composite.members, Composite.build, hc]
  | parameterized raw arguments ih =>
    obtain ⟨⟨hv, hne⟩, ha⟩ := valid_parameterized.mp h
    have hr : read .className raw.toJson = .ok raw := by rw [read, ClassName.ofJson_toJson hv]
    have hs : read .types (.arr (toJsonAll arguments)) = .ok arguments :=
      read_types fun a hm => ih a hm (ha a hm)
    have hb : applied raw arguments = .ok (parameterized raw arguments) :=
      applied_eq_ok_iff.mpr ⟨hne, rfl⟩
    rw [toJson, read_tagged rfl]
    simp [readValue, readMembers, Composite.members, Composite.build, List.lookup_cons, hr, hs, hb]
  | typeVariable name bounds ih =>
    have hb := valid_typeVariable.mp h
    have hn : read .text (.str name) = .ok name := by rw [read, Json.text]
    have hs : read .types (.arr (toJsonAll bounds)) = .ok bounds :=
      read_types fun b hm => ih b hm (hb b hm)
    rw [toJson, read_tagged rfl]
    simp [readValue, readMembers, Composite.members, Composite.build, List.lookup_cons, hn, hs]
  | intersection bounds ih =>
    obtain ⟨hl, hb⟩ := valid_intersection.mp h
    have hs : read .types (.arr (toJsonAll bounds)) = .ok bounds :=
      read_types fun b hm => ih b hm (hb b hm)
    have hm : meet bounds = .ok (intersection bounds) := meet_eq_ok_iff.mpr ⟨hl, rfl⟩
    rw [toJson, read_tagged rfl]
    simp [readValue, readMembers, Composite.members, Composite.build, hs, hm]

theorem eq_of_toJson_eq {s t : TypeName} (hs : s.Valid) (ht : t.Valid) (h : s.toJson = t.toJson) :
    s = t := by
  have he : Except.ok s = (.ok t : Except DecodeError TypeName) := by
    rw [← read_toJson hs, ← read_toJson ht, h]
  exact Except.ok.inj he

theorem json_roundTrip :
    (∀ t : TypeName, t.Valid → ofJson t.toJson = .ok t) ∧
    (∀ s t : TypeName, s.Valid → t.Valid → s.toJson = t.toJson → s = t) ∧
    ∀ (j : Json) (t : TypeName), ofJson j = .ok t → ofJson t.toJson = .ok t :=
  ⟨fun _ ht => read_toJson ht, fun _ _ hs ht => eq_of_toJson_eq hs ht,
    fun _ _ h => read_toJson (ofJson_valid h)⟩

def everyKind : TypeName :=
  .typeVariable "T" [.intersection [.parameterized ⟨["a$b"], ["Outer"], "Inner"⟩
    [.array (.primitive .int), .typeVariable "" []], .named ⟨[], [], "é"⟩], .void, .null]

def bareVariable : Json := .arr [.str "type_variable", .arr [.str "T"]]

theorem everyKind_roundTrip :
    everyKind.Valid ∧ ofJson everyKind.toJson = .ok everyKind ∧
    (∀ t : TypeName, t.Valid → everyKind.toJson = t.toJson → everyKind = t) ∧
    ofJson bareVariable = .ok (.typeVariable "T" []) ∧
    ofJson (typeVariable "T" []).toJson = .ok (.typeVariable "T" []) := by
  have hv : everyKind.Valid := by decide
  have hj : ofJson bareVariable = .ok (.typeVariable "T" []) := rfl
  obtain ⟨roundTrip, injective, again⟩ := json_roundTrip
  exact ⟨hv, roundTrip _ hv, fun t => injective everyKind t hv, hj, again bareVariable _ hj⟩

end TypeName

end JavaTypes
