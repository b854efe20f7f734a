import Plugboard.Proofs.ManifestLifecycle
import Plugboard.Proofs.Similarity
/-!
# The grammar of manifests

Reading a manifest accepts exactly the JSON objects whose `id`, `name` and `version` are texts
that are not blank once trimmed, and whose other known members have the types the manifest
declares for them (`Metadata.TypedMember`): description, author and category are texts, tags and
permissions arrays of texts, and the configuration an object. Anything else fails with a load
error; when the required fields are at fault the error lists each one that is missing, not a text
or blank, in the order id, name, version. The members the manifest does not know are kept,
each under its key with its value, in `extra`. An accepted manifest describes a valid
registration, which carries its identity, description, author, category and configuration, and
its tags and permissions as the sets of its lists.

The reader checks the object against the manifest's record shape. A record check goes through
the members in the object's order, checking each field against its shape and setting the others
aside (`Json.checkRecord_of_typed`), and then completes the fields in declaration order.
-/

namespace Plugboard

/-! ## Blank text -/

namespace Text

theorem trimChars_eq_nil_iff (cs : List Char) : trimChars cs = [] ↔ ∀ c ∈ cs, isBlank c = true := by
  rw [trimChars, List.reverse_eq_nil_iff, List.dropWhile_eq_nil_iff]
  constructor
  · -- what is left after the leading blanks would start with a character that is not blank
    intro h
    rw [← List.dropWhile_eq_nil_iff]
    by_contra hne
    have hhead := List.head_dropWhile_not isBlank hne
    rw [h _ (List.mem_reverse.2 (List.head_mem hne))] at hhead
    cases hhead
  · intro h x hx
    rw [List.dropWhile_eq_nil_iff.2 h] at hx
    cases hx

/-- A text is blank exactly when trimming leaves nothing of it. -/
theorem trim_eq_empty_iff (s : String) : trim s = "" ↔ isBlankText s = true := by
  rw [trim, String.ofList_eq_empty_iff, trimChars_eq_nil_iff, isBlankText_iff]

end Text

/-! ## Sorted sets of texts -/

theorem mem_insertText_iff {x z : String} {ys : List String} :
    z ∈ insertText x ys ↔ z = x ∨ z ∈ ys := by
  refine ⟨mem_insertText, ?_⟩
  induction ys with
  | nil => simp [insertText]
  | cons y ys ih =>
    intro h
    unfold insertText
    split_ifs with hxy hlt
    · rcases h with rfl | h
      · exact hxy ▸ List.mem_cons_self
      · exact h
    · simpa using h
    · rcases h with rfl | h
      · exact List.mem_cons_of_mem _ (ih (.inl rfl))
      · rcases List.mem_cons.1 h with rfl | h
        · exact List.mem_cons_self
        · exact List.mem_cons_of_mem _ (ih (.inr h))

/-- The sorted set of a list holds exactly the list's texts. -/
theorem mem_textSet {x : String} (xs : List String) : x ∈ textSet xs ↔ x ∈ xs := by
  -- the fold gathers the texts of the list into those already gathered
  suffices h : ∀ acc : List String,
      x ∈ xs.foldl (fun acc x => insertText x acc) acc ↔ x ∈ xs ∨ x ∈ acc by
    simpa [textSet] using h []
  induction xs with
  | nil => simp
  | cons y xs ih =>
    intro acc
    rw [List.foldl_cons, ih, mem_insertText_iff, List.mem_cons]
    tauto

/-! ## Members of objects -/

namespace Json

variable {l : List (String × Json)} {k : String}

theorem lookupField_append (k : String) (l l' : List (String × Json)) :
    lookupField k (l ++ l') = (lookupField k l').or (lookupField k l) := by
  induction l with
  | nil => simp [lookupField]
  | cons x l ih =>
    obtain ⟨k', v⟩ := x
    rw [List.cons_append, lookupField_cons, ih, lookupField_cons, Option.or_assoc]

/-- Keeping the members whose key passes a test keeps the value of a key that passes it, and
drops every other key. -/
theorem lookupField_filter (q : String → Bool) (k : String) (l : List (String × Json)) :
    lookupField k (l.filter fun kv => q kv.1) = if q k then lookupField k l else none := by
  induction l with
  | nil => simp [lookupField]
  | cons x l ih =>
    obtain ⟨k', v⟩ := x
    rw [lookupField_cons]
    by_cases hq : q k' = true
    · simp only [List.filter_cons, hq, if_true]
      rw [lookupField_cons, ih]
      by_cases hk : k' = k
      · subst hk
        simp [hq]
      · simp [hk]
    · simp only [List.filter_cons, hq, Bool.false_eq_true, if_false]
      rw [ih]
      by_cases hk : k' = k
      · subst hk
        simp [hq]
      · simp [hk]

/-- Sorting members by key keeps each key's value, the last member with the key winning. -/
theorem lookupField_sortFields (k : String) (l : List (String × Json)) :
    lookupField k (sortFields l) = lookupField k l := by
  show lookupField k (overlay [] l) = _
  rw [lookupField_overlay List.Pairwise.nil]
  cases lookupField k l <;> rfl

/-- The shape of a key that is a field of a record is found exactly when the key is a field. -/
theorem isSome_fieldShape (k : String) (fields : List (String × Shape × Option Json)) :
    (fieldShape k fields).isSome = fields.any (·.1 == k) := by
  induction fields with
  | nil => rfl
  | cons f fields ih =>
    obtain ⟨n, s, d⟩ := f
    by_cases hn : n = k <;> simp [fieldShape, hn, ih]

end Json

/-! ## Record checks -/

namespace Json

variable {fields : List (String × Shape × Option Json)} {keep : Bool}
  {ms found others : List (String × Json)} {k : String}

/-- The members of an object that are fields of a record, each as its field's shape checks it,
in the object's order. -/
def checkedFields (fields : List (String × Shape × Option Json)) (ms : List (String × Json)) :
    List (String × Json) :=
  ms.filterMap fun kv => (fieldShape kv.1 fields).bind fun s =>
    match check s kv.2 with
    | .ok v => some (kv.1, v)
    | .error _ => none

/-- The members of an object that are not fields of a record. -/
def otherMembers (fields : List (String × Shape × Option Json)) (ms : List (String × Json)) :
    List (String × Json) :=
  ms.filter fun kv => (fieldShape kv.1 fields).isNone

/-- Every member of an object that is a field of a record passes its field's shape. -/
def FieldsPass (fields : List (String × Shape × Option Json)) (ms : List (String × Json)) : Prop :=
  ∀ kv ∈ ms, ∀ s, fieldShape kv.1 fields = some s → ∃ v, check s kv.2 = .ok v

theorem check_record_obj (name : String) :
    check (.record name fields keep) (.obj ms) = checkRecord fields keep ms [] [] := by
  unfold check
  rfl

theorem checkRecord_nil :
    checkRecord fields keep [] found others =
      (completeFields found fields).map fun done => .obj (done ++ if keep then others else []) := by
  rw [checkRecord]
  cases completeFields found fields <;> rfl

/-- When every field passes, a record check checks the fields and sets the other members aside,
sorted by key, and then completes the fields. -/
theorem checkRecord_of_pass (h : FieldsPass fields ms) :
    checkRecord fields keep ms found others =
      checkRecord fields keep [] (found ++ checkedFields fields ms)
        (overlay others (otherMembers fields ms)) := by
  induction ms generalizing found others with
  | nil => simp [checkedFields, otherMembers, overlay]
  | cons kv ms ih =>
    obtain ⟨k, j⟩ := kv
    have hrest : FieldsPass fields ms := fun kv hkv => h kv (List.mem_cons_of_mem _ hkv)
    conv_lhs => rw [checkRecord]
    cases hs : fieldShape k fields with
    | none =>
      -- a member that is no field is set aside and never checked
      dsimp only
      rw [ih hrest]
      simp [checkedFields, otherMembers, hs, overlay]
    | some s =>
      obtain ⟨v, hv⟩ := h (k, j) List.mem_cons_self s hs
      dsimp only
      rw [hv]
      dsimp only [bind, Except.bind]
      rw [ih hrest]
      simp [checkedFields, otherMembers, hs, hv]

/-- A field that fails its shape fails the whole record. -/
theorem checkRecord_of_fail {k : String} {j : Json} {s : Shape} {e : String} (hkv : (k, j) ∈ ms)
    (hs : fieldShape k fields = some s) (he : check s j = .error e) :
    ∃ e', checkRecord fields keep ms found others = .error e' := by
  induction ms generalizing found others with
  | nil => cases hkv
  | cons kv ms ih =>
    obtain ⟨k', j'⟩ := kv
    rw [checkRecord]
    rcases List.mem_cons.1 hkv with heq | hkv
    · -- the failing member is the first one
      cases heq
      rw [hs]
      dsimp only
      rw [he]
      exact ⟨e, rfl⟩
    · cases hs' : fieldShape k' fields with
      | none => exact ih hkv
      | some s' =>
        dsimp only
        cases hv : check s' j' with
        | error e' => exact ⟨e', rfl⟩
        | ok v => exact ih hkv

/-- When every field is found or has a default, completing the fields takes each from the
members found, or else its default. -/
theorem completeFields_eq (h : ∀ f ∈ fields, (lookupField f.1 found).isSome ∨ f.2.2.isSome) :
    completeFields found fields =
      .ok (fields.map fun f => (f.1, (lookupField f.1 found).getD (f.2.2.getD .null))) := by
  induction fields with
  | nil => rfl
  | cons f fields ih =>
    obtain ⟨n, s, d⟩ := f
    have hrest := ih fun f hf => h f (List.mem_cons_of_mem _ hf)
    rw [completeFields]
    cases hl : lookupField n found with
    | some v => simp [hrest, bind, Except.bind, pure, Except.pure, hl]
    | none =>
      -- a field that is not found has a default
      obtain ⟨d', rfl⟩ : ∃ d', d = some d' := by
        have := h (n, s, d) List.mem_cons_self
        simp only [hl, Option.isSome_none, Bool.false_eq_true, false_or] at this
        exact Option.isSome_iff_exists.1 this
      simp [hrest, absentField, bind, Except.bind, pure, Except.pure, hl]

/-- A field whose check gives back every value the object has for it keeps its value among the
checked fields. -/
theorem lookupField_checkedFields {s : Shape} (hs : fieldShape k fields = some s)
    (hid : ∀ v, (k, v) ∈ ms → check s v = .ok v) :
    lookupField k (checkedFields fields ms) = lookupField k ms := by
  induction ms with
  | nil => rfl
  | cons kv ms ih =>
    obtain ⟨k', j⟩ := kv
    have hrest := ih fun v hv => hid v (List.mem_cons_of_mem _ hv)
    rw [lookupField_cons]
    by_cases hk : k' = k
    · subst hk
      simp [checkedFields, hs, hid j List.mem_cons_self] at hrest ⊢
      rw [lookupField_cons, hrest]
      simp
    · -- another key adds at most a member under that key
      have hother : ∀ x, x ∈ checkedFields fields [(k', j)] → x.1 = k' := by
        intro x hx
        simp only [checkedFields, List.filterMap_cons, List.filterMap_nil] at hx
        split at hx
        · cases hx
        · rename_i y hy
          rw [List.mem_singleton] at hx
          subst hx
          cases hf : fieldShape k' fields <;> simp [hf] at hy
          split at hy <;> cases hy
          rfl
      have hsplit : checkedFields fields ((k', j) :: ms) =
          checkedFields fields [(k', j)] ++ checkedFields fields ms := by
        simp [checkedFields, List.filterMap_cons]
        split <;> simp
      have hnone : lookupField k (checkedFields fields [(k', j)]) = none :=
        lookupField_of_forall_ne fun x hx => (hother x hx).symm ▸ hk
      rw [hsplit, lookupField_append, hrest, hnone]
      simp [hk]

/-! ## Checks of the manifest's types -/

variable {v : Json}

@[simp] theorem check_text_str (t : String) : check .text (.str t) = .ok (.str t) := by
  simp [check, Shape.peel, checkScalar]

theorem check_text_iff : (∃ w, check .text v = .ok w) ↔ ∃ t, v = .str t := by
  cases v <;> simp [check, Shape.peel, checkScalar]

theorem checkItems_text_iff (items : List Json) :
    (∃ ws, checkItems .text items = .ok ws) ↔ ∃ xs : List String, items = xs.map .str := by
  induction items with
  | nil => exact ⟨fun _ => ⟨[], rfl⟩, fun _ => ⟨[], by rw [checkItems]⟩⟩
  | cons j items ih =>
    rw [checkItems]
    cases j with
    | str t =>
      simp only [check_text_str, bind, Except.bind]
      constructor
      · rintro ⟨ws, h⟩
        cases hi : checkItems .text items with
        | error e => rw [hi] at h; cases h
        | ok ws' =>
          obtain ⟨xs, rfl⟩ := ih.1 ⟨ws', hi⟩
          exact ⟨t :: xs, rfl⟩
      · rintro ⟨xs, hxs⟩
        cases xs with
        | nil => cases hxs
        | cons x xs =>
          obtain ⟨-, rfl⟩ := List.cons.inj hxs
          obtain ⟨ws', hi⟩ := ih.2 ⟨xs, rfl⟩
          exact ⟨_, by rw [hi]; rfl⟩
    | _ =>
      -- an item that is no text fails the array, and no list of texts starts with it
      simp [check, Shape.peel, checkScalar, bind, Except.bind]
      intro xs hxs
      cases xs <;> simp at hxs

theorem check_texts_iff :
    (∃ w, check (.list .text) v = .ok w) ↔ ∃ xs : List String, v = .arr (xs.map .str) := by
  cases v with
  | arr items =>
    simp only [check, Shape.peel, Json.arr.injEq]
    rw [← checkItems_text_iff]
    constructor
    · rintro ⟨w, h⟩
      cases hi : checkItems .text items with
      | error e => rw [hi] at h; cases h
      | ok ws => exact ⟨ws, rfl⟩
    · rintro ⟨ws, hi⟩
      exact ⟨_, by rw [hi]; rfl⟩
  | _ => simp [check, Shape.peel, checkScalar]

@[simp] theorem check_any (j : Json) : check .any j = .ok j := by
  cases j <;> simp [check, Shape.peel, checkScalar]

theorem checkDict_any (members : List (String × Json)) :
    ∃ ws, checkDict .any members = .ok ws := by
  induction members with
  | nil => exact ⟨[], by rw [checkDict]⟩
  | cons m members ih =>
    obtain ⟨k, j⟩ := m
    obtain ⟨ws, h⟩ := ih
    exact ⟨_, by rw [checkDict]; simp [h, bind, Except.bind]; rfl⟩

theorem check_object_iff : (∃ w, check (.dict .any) v = .ok w) ↔ ∃ members, v = .obj members := by
  cases v with
  | obj members =>
    obtain ⟨ws, h⟩ := checkDict_any members
    exact ⟨fun _ => ⟨members, rfl⟩, fun _ => ⟨_, by simp [check, Shape.peel, h]; rfl⟩⟩
  | _ => simp [check, Shape.peel, checkScalar]

end Json

/-! ## The manifest's fields -/

namespace Metadata

open Json

/-- The types a manifest declares for its known fields. -/
inductive FieldType where
  | text
  | texts
  | object

/-- The type a manifest declares for a key, if the key is one of its fields. -/
def fieldType : String → Option FieldType
  | "id" | "name" | "version" | "description" | "author" | "category" => some .text
  | "tags" | "permissions" => some .texts
  | "config" => some .object
  | _ => none

/-- Whether a value has a declared type: a text, an array of texts, or an object. -/
def FieldType.Has : FieldType → Json → Prop
  | .text, v => ∃ t, v = .str t
  | .texts, v => ∃ xs : List String, v = .arr (xs.map .str)
  | .object, v => ∃ members, v = .obj members

/-- The shape that checks a declared type. -/
def FieldType.shape : FieldType → Shape
  | .text => .text
  | .texts => .list .text
  | .object => .dict .any

/-- Whether a member of a manifest has the type the manifest declares for its key; a member the
manifest does not know may hold anything. -/
def TypedMember (k : String) (v : Json) : Prop :=
  ∀ t, fieldType k = some t → t.Has v

/-- Whether a required field of an object is a text that is not blank once trimmed. -/
def filled (ms : List (String × Json)) (f : String) : Bool :=
  match lookupField f ms with
  | some (.str s) => Text.trim s != ""
  | _ => false

/-- The objects that are manifests: every required field is filled, and every member has the
type its key declares. -/
def Accepts (ms : List (String × Json)) : Prop :=
  (∀ f ∈ required, filled ms f = true) ∧ ∀ kv ∈ ms, TypedMember kv.1 kv.2

variable {k : String} {j : Json} {ms : List (String × Json)}

/-- The manifest's record shape checks each known field by the shape of its declared type. -/
theorem fieldShape_fields (k : String) : fieldShape k fields = (fieldType k).map FieldType.shape := by
  unfold fieldType
  split
  -- each of the nine fields is found by its name
  any_goals rfl
  -- any other key is none of them
  rename_i h1 h2 h3 h4 h5 h6 h7 h8 h9
  simp [fieldShape, fields, Ne.symm h1, Ne.symm h2, Ne.symm h3, Ne.symm h4, Ne.symm h5,
    Ne.symm h6, Ne.symm h7, Ne.symm h8, Ne.symm h9]

theorem known_eq (k : String) : known k = (fieldType k).isSome := by
  rw [known, ← isSome_fieldShape, fieldShape_fields, Option.isSome_map]

/-- A member passes the manifest's shape exactly when it has its declared type. -/
theorem pass_iff_typedMember :
    (∀ s, fieldShape k fields = some s → ∃ v, check s j = .ok v) ↔ TypedMember k j := by
  rw [fieldShape_fields, TypedMember]
  cases fieldType k with
  | none => simp
  | some t =>
    cases t <;> simp [FieldType.shape, FieldType.Has, check_text_iff, check_texts_iff,
      check_object_iff]

theorem fieldsPass_iff : FieldsPass fields ms ↔ ∀ kv ∈ ms, TypedMember kv.1 kv.2 :=
  forall₂_congr fun _ _ => pass_iff_typedMember

/-- The required fields an object lacks or has blank are those not filled. -/
theorem missingIn_eq (ms : List (String × Json)) :
    missingIn ms = required.filter fun f => !filled ms f := by
  unfold missingIn filled
  congr
  funext f
  cases lookupField f ms with
  | none => rfl
  | some v =>
    cases v with
    | str s =>
      have h := Text.trim_eq_empty_iff s
      cases hb : Text.isBlankText s <;> simp_all
    | _ => rfl

/-- A text field of an accepted object keeps its value through the check. -/
theorem lookupField_checkedFields_text (ha : ∀ kv ∈ ms, TypedMember kv.1 kv.2)
    (hk : fieldType k = some .text) :
    lookupField k (checkedFields fields ms) = lookupField k ms := by
  refine lookupField_checkedFields (s := .text) (by rw [fieldShape_fields, hk]; rfl) fun v hv => ?_
  obtain ⟨t, rfl⟩ := ha (k, v) hv .text hk
  exact check_text_str t

/-- The record check of an accepted object completes the known fields, with the required ones
as the object has them and no other key, and sets the members it does not know aside, sorted by
key. -/
theorem check_shape_of_accepts (ha : Accepts ms) :
    ∃ done, check shape (.obj ms) = .ok (.obj (done ++ overlay [] (otherMembers fields ms))) ∧
      (∀ f ∈ required, lookupField f done = lookupField f ms) ∧
      ∀ k, known k = false → lookupField k done = none := by
  have hpass : FieldsPass fields ms := fieldsPass_iff.2 ha.2
  -- each required field is filled, so it is found among the checked fields
  have hreq : ∀ f ∈ required, lookupField f (checkedFields fields ms) = lookupField f ms ∧
      (lookupField f ms).isSome := by
    intro f hf
    have htext : fieldType f = some .text := by
      simp only [required, List.mem_cons, List.not_mem_nil, or_false] at hf
      rcases hf with rfl | rfl | rfl <;> rfl
    refine ⟨lookupField_checkedFields_text ha.2 htext, ?_⟩
    have hfilled := ha.1 f hf
    unfold filled at hfilled
    split at hfilled
    · rename_i hl
      rw [hl]
      rfl
    · cases hfilled
  have hcomplete : ∀ f ∈ fields,
      (lookupField f.1 (checkedFields fields ms)).isSome ∨ f.2.2.isSome := by
    intro f hf
    simp only [fields, List.mem_cons, List.not_mem_nil, or_false] at hf
    rcases hf with rfl | rfl | rfl | rfl | rfl | rfl | rfl | rfl | rfl
    all_goals first
      | exact .inr rfl
      | exact .inl (by rw [(hreq _ (by simp [required])).1]; exact (hreq _ (by simp [required])).2)
  refine ⟨fields.map fun f => (f.1, (lookupField f.1 (checkedFields fields ms)).getD
    (f.2.2.getD .null)), ?_, ?_, ?_⟩
  · rw [shape, check_record_obj, checkRecord_of_pass hpass, checkRecord_nil, List.nil_append,
      completeFields_eq hcomplete]
    rfl
  · -- each required field is completed from the checked fields, which hold it
    intro f hf
    obtain ⟨v, hv⟩ := Option.isSome_iff_exists.1 (hreq f hf).2
    rw [← (hreq f hf).1] at hv ⊢
    generalize checkedFields fields ms = found at hv ⊢
    simp only [required, List.mem_cons, List.not_mem_nil, or_false] at hf
    rcases hf with rfl | rfl | rfl <;> simp [fields, lookupField, hv]
  · intro k hk
    refine lookupField_of_forall_ne fun x hx => ?_
    obtain ⟨f, hf, rfl⟩ := List.mem_map.1 hx
    intro hfk
    rw [known, List.any_eq_false] at hk
    exact hk f hf (beq_iff_eq.2 hfk)

/-- The members an accepted object does not know, as the record check sets them aside. -/
theorem lookupField_otherMembers (k : String) :
    lookupField k (overlay [] (otherMembers fields ms)) =
      if known k then none else lookupField k ms := by
  rw [lookupField_overlay List.Pairwise.nil, otherMembers,
    lookupField_filter (fun k => (fieldShape k fields).isNone), known, ← isSome_fieldShape]
  cases fieldShape k fields <;> simp [lookupField]

/-- Reading an accepted manifest succeeds, with the identity the object gives and every member
it does not know kept under its key. -/
theorem parse_of_accepts {text : String} (source : String) (hr : Json.read text = .ok (.obj ms))
    (ha : Accepts ms) :
    ∃ m, parse text source = .ok m ∧ lookupField "id" ms = some (.str m.id) ∧
      lookupField "name" ms = some (.str m.name) ∧
      lookupField "version" ms = some (.str m.version) ∧
      ∀ k, lookupField k m.extra = if known k then none else lookupField k ms := by
  obtain ⟨done, hcheck, hreq, hdone⟩ := check_shape_of_accepts ha
  have hmissing : missingIn ms = [] := by
    rw [missingIn_eq, List.filter_eq_nil_iff]
    intro f hf
    simp [ha.1 f hf]
  -- a key of the completed object is a known field's, or a member set aside
  have hmembers : ∀ k, lookupField k (done ++ overlay [] (otherMembers fields ms)) =
      if known k then lookupField k done else lookupField k ms := by
    intro k
    rw [lookupField_append, lookupField_otherMembers]
    cases hk : known k
    · simp [hdone k hk]
    · rfl
  -- each required field is a text in the object
  have htext : ∀ f ∈ required, ∃ t, lookupField f ms = some (.str t) := by
    intro f hf
    have hfilled := ha.1 f hf
    unfold filled at hfilled
    split at hfilled
    · exact ⟨_, by assumption⟩
    · cases hfilled
  have hknown : ∀ f ∈ required, known f = true := by
    intro f hf
    simp only [required, List.mem_cons, List.not_mem_nil, or_false] at hf
    rcases hf with rfl | rfl | rfl <;> rfl
  have hat : ∀ f ∈ required,
      lookupField f ms = some (.str (textAt (.obj (done ++ overlay [] (otherMembers fields ms))) f)) := by
    intro f hf
    obtain ⟨t, ht⟩ := htext f hf
    rw [ht, textAt, field?, hmembers, if_pos (hknown f hf), hreq f hf, ht]
  refine ⟨ofJson (.obj (done ++ overlay [] (otherMembers fields ms))), ?_,
    hat "id" (by simp [required]), hat "name" (by simp [required]),
    hat "version" (by simp [required]), fun k => ?_⟩
  · simp only [parse, hr, hmissing, hcheck]
  · -- the members it keeps are the completed object's that are no field
    show lookupField k (sortFields _) = _
    rw [lookupField_sortFields, lookupField_filter (fun k => !known k), hmembers]
    cases known k <;> rfl

/-- Reading a manifest succeeds only on an object that is a manifest. -/
theorem accepts_of_parse {text source : String} {m : Metadata} (h : parse text source = .ok m) :
    ∃ ms, Json.read text = .ok (.obj ms) ∧ Accepts ms := by
  cases hr : Json.read text with
  | error f => simp [parse, hr] at h
  | ok j =>
    cases j with
    | obj ms =>
      cases hm : missingIn ms with
      | cons f fs => simp [parse, hr, hm] at h
      | nil =>
        cases hc : check shape (.obj ms) with
        | error e => simp [parse, hr, hm, hc] at h
        | ok j =>
          refine ⟨ms, rfl, fun f hf => ?_, fieldsPass_iff.1 fun kv hkv s hs => ?_⟩
          · -- no required field is missing
            rw [missingIn_eq, List.filter_eq_nil_iff] at hm
            simpa using hm f hf
          · -- a member that failed its shape would have failed the whole check
            cases hv : check s kv.2 with
            | ok v => exact ⟨v, rfl⟩
            | error e =>
              rw [shape, check_record_obj] at hc
              obtain ⟨e', he'⟩ : ∃ e', checkRecord fields true ms [] [] = .error e' :=
                checkRecord_of_fail hkv hs hv
              rw [hc] at he'
              cases he'
    | _ => simp [parse, hr] at h

/-- Every refusal of a manifest is a load error. -/
theorem parse_error_load {text source : String} {e : Error} (h : parse text source = .error e) :
    ∃ msg, e = .load msg := by
  cases hr : Json.read text with
  | error f =>
    simp only [parse, hr] at h
    cases h
    exact ⟨_, rfl⟩
  | ok j =>
    cases j with
    | obj ms =>
      cases hm : missingIn ms with
      | cons f fs =>
        simp only [parse, hr, hm] at h
        cases h
        exact ⟨_, rfl⟩
      | nil =>
        cases hc : check shape (.obj ms) with
        | ok j => simp [parse, hr, hm, hc] at h
        | error msg =>
          simp only [parse, hr, hm, hc] at h
          cases h
          exact ⟨_, rfl⟩
    | _ =>
      simp only [parse, hr] at h
      cases h
      exact ⟨_, rfl⟩

/-- An object whose required fields are at fault is refused with the list of those fields. -/
theorem parse_of_missing {text source : String} (hr : Json.read text = .ok (.obj ms))
    (hm : (required.filter fun f => !filled ms f) ≠ []) :
    parse text source = .error (.load ("manifest " ++ source ++ ": " ++
      ("missing required field(s): " ++ ", ".intercalate (required.filter fun f => !filled ms f)))) := by
  rw [← missingIn_eq] at hm ⊢
  cases h : missingIn ms with
  | nil => exact absurd h hm
  | cons f fs => simp only [parse, hr, h]

/-- The registration a manifest describes carries its identity, description, author, category and
configuration, and its tags and permissions as the sorted sets of its lists; it is valid when the
identity is not blank. -/
theorem toRegistration_valid {m : Metadata} (hid : Text.trim m.id ≠ "")
    (hname : Text.trim m.name ≠ "") (hversion : Text.trim m.version ≠ "") (t : Instant) :
    (m.toRegistration t).validate = .ok () := by
  rw [Registration.validate_ok_iff, Registration.blankFields]
  rw [Ne, Text.trim_eq_empty_iff, Bool.not_eq_true] at hid hname hversion
  simp [toRegistration, Registration.create, hid, hname, hversion]

/-- A filled field is a text that trimming does not empty. -/
theorem trim_ne_of_filled {f t : String} (h : filled ms f = true)
    (ht : lookupField f ms = some (.str t)) : Text.trim t ≠ "" := by
  unfold filled at h
  rw [ht] at h
  simpa using h

/-- **The grammar of manifests.** Reading a text as a manifest succeeds exactly when the text is
a JSON object whose required fields are texts that are not blank once trimmed and whose other
known fields have their declared types; every refusal is a load error, and one for the required
fields lists those at fault in the order id, name, version. An accepted manifest has the
identity the object gives, keeps every member it does not know under its key, and describes a
valid registration that carries its identity, description, author, category and configuration,
with its tags and permissions as the sets of its lists. -/
theorem manifests_read_exactly_their_grammar (text source : String) :
    ((∃ m, parse text source = .ok m) ↔ ∃ ms, Json.read text = .ok (.obj ms) ∧ Accepts ms) ∧
    (∀ e, parse text source = .error e → ∃ msg, e = .load msg) ∧
    (∀ ms, Json.read text = .ok (.obj ms) → (required.filter fun f => !filled ms f) ≠ [] →
      parse text source = .error (.load ("manifest " ++ source ++ ": " ++
        ("missing required field(s): " ++
          ", ".intercalate (required.filter fun f => !filled ms f))))) ∧
    ∀ m, parse text source = .ok m →
      (∃ ms, Json.read text = .ok (.obj ms) ∧ lookupField "id" ms = some (.str m.id) ∧
        lookupField "name" ms = some (.str m.name) ∧
        lookupField "version" ms = some (.str m.version) ∧
        ∀ k, lookupField k m.extra = if (fieldType k).isSome then none else lookupField k ms) ∧
      ∀ t, let r := m.toRegistration t
        r.validate = .ok () ∧ r.id = m.id ∧ r.name = m.name ∧ r.version = m.version ∧
        r.description = m.description ∧ r.author = m.author ∧ r.category = m.category ∧
        r.config = m.config ∧ (∀ x, x ∈ r.tags ↔ x ∈ m.tags) ∧ r.tags.Pairwise (· < ·) ∧
        (∀ x, x ∈ r.permissions ↔ x ∈ m.permissions) ∧ r.permissions.Pairwise (· < ·) := by
  refine ⟨⟨fun ⟨_, h⟩ => accepts_of_parse h,
    fun ⟨_, hr, ha⟩ => (parse_of_accepts source hr ha).imp fun _ h => h.1⟩,
    fun _ h => parse_error_load h, fun _ hr hm => parse_of_missing hr hm, fun m h => ?_⟩
  obtain ⟨ms, hr, ha⟩ := accepts_of_parse h
  obtain ⟨m', h', hid, hname, hversion, hextra⟩ := parse_of_accepts source hr ha
  rw [h] at h'
  cases h'
  refine ⟨⟨ms, hr, hid, hname, hversion, fun k => by rw [hextra, known_eq]⟩, fun t => ?_⟩
  have hvalid := toRegistration_valid (trim_ne_of_filled (ha.1 "id" (by simp [required])) hid)
    (trim_ne_of_filled (ha.1 "name" (by simp [required])) hname)
    (trim_ne_of_filled (ha.1 "version" (by simp [required])) hversion) t
  exact ⟨hvalid, rfl, rfl, rfl, rfl, rfl, rfl, rfl, fun _ => mem_textSet m.tags,
    sorted_textSet m.tags, fun _ => mem_textSet m.permissions, sorted_textSet m.permissions⟩

end Metadata

end Plugboard
