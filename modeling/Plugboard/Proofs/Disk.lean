import Mathlib.Data.String.Basic
import Plugboard.Disk.Basic
/-!
# Walking the disk

What writing, removing and renaming a file inside a directory does to the disk. A directory path
is walked to the names leading to it from the root (`Disk.walk`); a plain name joined onto it is
located as that directory's entry, and changing the entry grafts the directory's new entries
into the tree at the walked names (`Node.graft`). A graft keeps every directory a directory when
the grafted directory had no subdirectories, so the walk of the directory path, and of every
other path through directories, is the same afterwards.
-/

namespace Plugboard

namespace Node

/-- Entries in strictly increasing name order, as every directory the disk builds keeps them. -/
def Sorted (es : List (String × Node)) : Prop := es.Pairwise fun a b => a.1 < b.1

theorem lookup_setEntry_self (name : String) (v : Node) (es : List (String × Node)) :
    lookup name (setEntry name (some v) es) = some v := by
  induction es with
  | nil => simp [setEntry, lookup]
  | cons e es ih =>
    obtain ⟨n, w⟩ := e
    simp only [setEntry]
    split
    · simp [lookup]
    · split
      · simp [lookup]
      · rename_i h _
        simp [lookup, h, ih]

theorem lookup_setEntry_ne {m name : String} (h : m ≠ name) (v : Option Node)
    (es : List (String × Node)) : lookup m (setEntry name v es) = lookup m es := by
  have h' : name ≠ m := Ne.symm h
  induction es with
  | nil => cases v <;> simp [setEntry, lookup, h']
  | cons e es ih =>
    obtain ⟨n, w⟩ := e
    simp only [setEntry]
    split
    · rename_i hn
      subst hn
      cases v <;> simp [lookup, h']
    · split
      · cases v <;> simp [lookup, h']
      · simp [lookup, ih]

theorem mem_of_lookup_eq_some {name : String} {v : Node} :
    ∀ {es : List (String × Node)}, lookup name es = some v → (name, v) ∈ es
  | [], h => by simp [lookup] at h
  | (n, w) :: rest, h => by
    simp only [lookup] at h
    split at h
    · rename_i hn
      subst hn
      cases h
      exact List.mem_cons_self
    · exact List.mem_cons_of_mem _ (mem_of_lookup_eq_some h)

theorem mem_setEntry {name : String} {v : Option Node} {e : String × Node} :
    ∀ {es : List (String × Node)}, e ∈ setEntry name v es → e ∈ es ∨ e.1 = name
  | [], h => by
    cases v <;> simp_all [setEntry]
  | (n, w) :: rest, h => by
    simp only [setEntry] at h
    split at h
    · cases v with
      | none => exact .inl (List.mem_cons_of_mem _ h)
      | some u =>
        rcases List.mem_cons.mp h with rfl | h
        · exact .inr rfl
        · exact .inl (List.mem_cons_of_mem _ h)
    · split at h
      · cases v with
        | none => exact .inl h
        | some u =>
          rcases List.mem_cons.mp h with rfl | h
          · exact .inr rfl
          · exact .inl h
      · rcases List.mem_cons.mp h with rfl | h
        · exact .inl List.mem_cons_self
        · exact (mem_setEntry h).imp_left (List.mem_cons_of_mem _)

theorem lookup_eq_none_of_lt {name : String} {es : List (String × Node)}
    (h : ∀ e ∈ es, name < e.1) : lookup name es = none := by
  cases hl : lookup name es with
  | none => rfl
  | some v => exact absurd (h _ (mem_of_lookup_eq_some hl)) (lt_irrefl _)

theorem sorted_setEntry (name : String) (v : Option Node) :
    ∀ {es : List (String × Node)}, Sorted es → Sorted (setEntry name v es)
  | [], _ => by cases v <;> simp [setEntry, Sorted]
  | (n, w) :: rest, h => by
    have hn : ∀ e ∈ rest, n < e.1 := (List.pairwise_cons.mp h).1
    have hrest : Sorted rest := (List.pairwise_cons.mp h).2
    simp only [setEntry]
    split
    · rename_i he
      subst he
      cases v with
      | none => exact hrest
      | some v => exact List.pairwise_cons.mpr ⟨hn, hrest⟩
    · split
      · rename_i hlt
        cases v with
        | none => exact h
        | some v =>
          refine List.pairwise_cons.mpr ⟨?_, h⟩
          intro e he
          rcases List.mem_cons.mp he with rfl | he
          · exact hlt
          · exact lt_trans hlt (hn e he)
      · rename_i hne hlt
        have hlt' : n < name := lt_of_le_of_ne (not_lt.mp hlt) hne
        refine List.pairwise_cons.mpr ⟨?_, sorted_setEntry name v hrest⟩
        intro e he
        rcases mem_setEntry he with he | he
        · exact hn e he
        · exact he ▸ hlt'

theorem lookup_setEntry_none_self (name : String) :
    ∀ {es : List (String × Node)}, Sorted es → lookup name (setEntry name none es) = none
  | [], _ => rfl
  | (n, w) :: rest, h => by
    have hn : ∀ e ∈ rest, n < e.1 := (List.pairwise_cons.mp h).1
    simp only [setEntry]
    split
    · rename_i he
      subst he
      exact lookup_eq_none_of_lt hn
    · rename_i hne
      split
      · rename_i hlt
        simp only [lookup, hne, if_false]
        exact lookup_eq_none_of_lt fun e he => lt_trans hlt (hn e he)
      · simp only [lookup, hne, if_false]
        exact lookup_setEntry_none_self name (List.pairwise_cons.mp h).2


theorem lookup_eq_some_iff_mem {name : String} {v : Node} :
    ∀ {es : List (String × Node)}, Sorted es → (lookup name es = some v ↔ (name, v) ∈ es)
  | [], _ => by simp [lookup]
  | (n, w) :: rest, h => by
    have hn : ∀ e ∈ rest, n < e.1 := (List.pairwise_cons.mp h).1
    refine ⟨mem_of_lookup_eq_some, fun hm => ?_⟩
    simp only [lookup]
    rcases List.mem_cons.mp hm with he | hm
    · cases he
      simp
    · split
      · rename_i hnn
        exact absurd (hnn ▸ hn _ hm) (lt_irrefl _)
      · exact (lookup_eq_some_iff_mem (List.pairwise_cons.mp h).2).mpr hm

/-- Taking a name out of a sorted directory keeps its other entries, in their order. -/
theorem setEntry_none_eq_filter (name : String) :
    ∀ {es : List (String × Node)}, Sorted es → setEntry name none es = es.filter (·.1 ≠ name)
  | [], _ => rfl
  | (n, w) :: rest, h => by
    have hn : ∀ e ∈ rest, n < e.1 := (List.pairwise_cons.mp h).1
    -- once `name` is not past `n`, no later entry has it
    have hkeep : name ≤ n → rest.filter (·.1 ≠ name) = rest := fun hle =>
      List.filter_eq_self.2 fun e he => by simpa using ne_of_gt (lt_of_le_of_lt hle (hn e he))
    simp only [setEntry]
    split
    · rename_i he
      subst he
      rw [List.filter_cons_of_neg (by simp), hkeep le_rfl]
    · rename_i hne
      split
      · rename_i hlt
        rw [List.filter_cons_of_pos (by simpa using hne), hkeep (le_of_lt hlt)]
      · rw [List.filter_cons_of_pos (by simpa using hne),
          setEntry_none_eq_filter name (List.pairwise_cons.mp h).2]

theorem setEntry_none_of_lookup {es : List (String × Node)} (h : Sorted es) {name : String}
    (hl : lookup name es = none) : setEntry name none es = es := by
  rw [setEntry_none_eq_filter name h, List.filter_eq_self]
  intro e he
  have hne : e.1 ≠ name := by
    rintro rfl
    rw [(lookup_eq_some_iff_mem h).2 he] at hl
    cases hl
  simpa using hne

/-- Two sorted directories with the same entry at every name are the same. -/
theorem Sorted.ext {es es' : List (String × Node)} (h : Sorted es) (h' : Sorted es')
    (hl : ∀ name, lookup name es = lookup name es') : es = es' := by
  have hnd : ∀ {l : List (String × Node)}, Sorted l → l.Nodup :=
    fun hs => hs.imp fun hlt he => ne_of_lt hlt (congrArg Prod.fst he)
  have hmem : ∀ e, e ∈ es ↔ e ∈ es' := by
    rintro ⟨n, v⟩
    rw [← lookup_eq_some_iff_mem h, ← lookup_eq_some_iff_mem h', hl]
  refine List.Perm.eq_of_pairwise ?_
    (show List.Pairwise (fun a b : String × Node => a.1 < b.1) es from h) h' ?_
  · intro a b _ _ hab hba
    exact absurd (hab.trans hba) (lt_irrefl _)
  · exact (List.perm_ext_iff_of_nodup (hnd h) (hnd h')).2 hmem

/-- Writing an entry, setting another and taking the first away again leaves a sorted directory as
if only the second had been set, and the first taken away. -/
theorem setEntry_through {es : List (String × Node)} (h : Sorted es) {a b : String} (hab : a ≠ b)
    (v w : Node) :
    setEntry a none (setEntry b (some v) (setEntry a (some w) es)) =
      setEntry b (some v) (setEntry a none es) := by
  have hs1 := sorted_setEntry a (some w) h
  refine Sorted.ext (sorted_setEntry _ _ (sorted_setEntry _ _ hs1))
    (sorted_setEntry _ _ (sorted_setEntry _ _ h)) fun name => ?_
  by_cases ha : name = a
  · subst ha
    rw [lookup_setEntry_none_self _ (sorted_setEntry _ _ hs1), lookup_setEntry_ne hab,
      lookup_setEntry_none_self _ h]
  · rw [lookup_setEntry_ne ha]
    by_cases hb : name = b
    · subst hb
      rw [lookup_setEntry_self, lookup_setEntry_self]
    · rw [lookup_setEntry_ne hb, lookup_setEntry_ne hb, lookup_setEntry_ne ha, lookup_setEntry_ne ha]

theorem step_eq_ok_iff {es : List (String × Node)} {name : String} {v : Option Node} :
    step es name = .ok v ↔ name.utf8ByteSize ≤ Disk.nameMax ∧ lookup name es = v := by
  unfold step
  split <;> simp_all

theorem find_dir_cons_cons (es : List (String × Node)) (a b : String) (t : List String) :
    (dir es).find (a :: b :: t) =
      (step es a).bind fun o => match o with
        | none => .error .notFound
        | some child => child.find (b :: t) := by
  rw [find]
  rfl

theorem find_dir_cons_cons_eq_ok {es : List (String × Node)} {a b : String} {t : List String}
    {x : Option Node} :
    (dir es).find (a :: b :: t) = .ok x ↔
      ∃ child, step es a = .ok (some child) ∧ child.find (b :: t) = .ok x := by
  rw [find_dir_cons_cons]
  rcases step es a with e | _ | child <;> simp [Except.bind]

/-- Walking on from a node reached by a path is walking the longer path. -/
theorem find_append : ∀ {n c : Node} {here : List String}, n.find here = .ok (some c) →
    ∀ rest, n.find (here ++ rest) = c.find rest
  | n, c, [], h, rest => by
    simp only [find, Except.ok.injEq, Option.some.injEq] at h
    subst h
    rfl
  | .file _, _, _ :: _, h, _ => by simp [find] at h
  | .dir es, c, [a], h, rest => by
    cases rest with
    | nil => simpa [find] using h
    | cons r rs =>
      rw [List.singleton_append, find_dir_cons_cons]
      simp only [find] at h
      rw [h]
      rfl
  | .dir es, c, a :: b :: t, h, rest => by
    obtain ⟨child, hs, hc⟩ := find_dir_cons_cons_eq_ok.mp h
    rw [List.cons_append, List.cons_append, find_dir_cons_cons, hs, ← List.cons_append]
    exact find_append hc rest

/-- The node with the directory at a path given other entries, and everything else as it is. -/
def graft : Node → List String → List (String × Node) → Node
  | _, [], es => .dir es
  | .file t, _ :: _, _ => .file t
  | .dir entries, name :: rest, es =>
    match lookup name entries with
    | some child => .dir (setEntry name (some (child.graft rest es)) entries)
    | none => .dir entries

theorem update_dir_cons_cons (f : Option Node → Except OsError (Option Node))
    (es : List (String × Node)) (a b : String) (t : List String) :
    (dir es).update f (a :: b :: t) =
      (step es a).bind fun o => match o with
        | none => .error .notFound
        | some child => (child.update f (b :: t)).bind fun c => .ok (.dir (setEntry a (some c) es)) := by
  rw [update]
  rfl

/-- Changing an entry of a directory reached by a path grafts the directory's new entries in. -/
theorem update_append_singleton (f : Option Node → Except OsError (Option Node)) (name : String) :
    ∀ {n : Node} {here : List String} {es : List (String × Node)},
      n.find here = .ok (some (.dir es)) →
      n.update f (here ++ [name]) =
        (step es name).bind fun old => (f old).bind fun new =>
          .ok (n.graft here (setEntry name new es))
  | n, [], es, h => by
    simp only [find, Except.ok.injEq, Option.some.injEq] at h
    subst h
    rw [List.nil_append, update]
    rfl
  | .file _, _ :: _, _, h => by simp [find] at h
  | .dir es0, [a], es, h => by
    simp only [find] at h
    have hl : lookup a es0 = some (.dir es) := (step_eq_ok_iff.mp h).2
    rw [List.singleton_append, update_dir_cons_cons, h]
    simp only [Except.bind, graft, hl]
    rw [update]
    rcases step es name with e | old
    · rfl
    · simp only [bind, Except.bind]
      rcases f old with e | new <;> rfl
  | .dir es0, a :: b :: t, es, h => by
    obtain ⟨child, hs, hc⟩ := find_dir_cons_cons_eq_ok.mp h
    have hl : lookup a es0 = some child := (step_eq_ok_iff.mp hs).2
    rw [List.cons_append, List.cons_append, update_dir_cons_cons, hs, ← List.cons_append]
    simp only [Except.bind, update_append_singleton f name hc, graft, hl]
    rcases step es name with e | old
    · rfl
    · dsimp only
      rcases f old with e | new <;> rfl


theorem step_setEntry_ne {m name : String} (h : m ≠ name) (v : Option Node)
    (es : List (String × Node)) : step (setEntry name v es) m = step es m := by
  simp only [step, lookup_setEntry_ne h]

theorem step_setEntry_self {es : List (String × Node)} {name : String} {v : Option Node}
    (h : step es name = .ok v) (c : Node) : step (setEntry name (some c) es) name = .ok (some c) :=
  step_eq_ok_iff.mpr ⟨(step_eq_ok_iff.mp h).1, lookup_setEntry_self name c es⟩

/-- A path from a directory reaches a node exactly when its first name is an entry from which
the rest of the path reaches it. -/
theorem find_dir_cons_eq_ok_some {es : List (String × Node)} {a : String} {t : List String}
    {c : Node} :
    (dir es).find (a :: t) = .ok (some c) ↔
      ∃ child, step es a = .ok (some child) ∧ child.find t = .ok (some c) := by
  cases t with
  | nil => simp [find]
  | cons b t => exact find_dir_cons_cons_eq_ok

theorem find_dir_setEntry_ne {m name : String} (h : m ≠ name) (v : Option Node)
    (es : List (String × Node)) (t : List String) :
    (dir (setEntry name v es)).find (m :: t) = (dir es).find (m :: t) := by
  cases t with
  | nil => simp only [find, step_setEntry_ne h]
  | cons b t => rw [find_dir_cons_cons, find_dir_cons_cons, step_setEntry_ne h]

theorem exists_graft_dir (es : List (String × Node)) (here : List String)
    (es' : List (String × Node)) : ∃ e, (dir es).graft here es' = dir e := by
  cases here with
  | nil => exact ⟨es', rfl⟩
  | cons a t =>
    simp only [graft]
    split <;> exact ⟨_, rfl⟩

theorem find_graft_self (es' : List (String × Node)) :
    ∀ {n : Node} {here : List String} {es : List (String × Node)},
      n.find here = .ok (some (.dir es)) → (n.graft here es').find here = .ok (some (.dir es'))
  | _, [], _, _ => by simp only [graft, find]
  | .file _, _ :: _, _, h => by simp [find] at h
  | .dir es0, a :: t, es, h => by
    obtain ⟨child, hs, hc⟩ := find_dir_cons_eq_ok_some.mp h
    simp only [graft, (step_eq_ok_iff.mp hs).2]
    exact find_dir_cons_eq_ok_some.mpr ⟨_, step_setEntry_self hs _, find_graft_self es' hc⟩

/-- Away from the grafted directory, every directory stays a directory. -/
theorem find_graft_of_not_prefix (es' : List (String × Node)) :
    ∀ {n : Node} {here Q : List String} {es eQ : List (String × Node)},
      n.find here = .ok (some (.dir es)) → ¬ here <+: Q → n.find Q = .ok (some (.dir eQ)) →
      ∃ e, (n.graft here es').find Q = .ok (some (.dir e))
  | _, [], _, _, _, _, hp, _ => absurd List.nil_prefix hp
  | .file _, _ :: _, _, _, _, h, _, _ => by simp [find] at h
  | .dir es0, a :: t, [], _, _, h, _, _ => by
    obtain ⟨_, hs, _⟩ := find_dir_cons_eq_ok_some.mp h
    simp only [graft, (step_eq_ok_iff.mp hs).2, find]
    exact ⟨_, rfl⟩
  | .dir es0, a :: t, q :: Qr, es, eQ, h, hp, hQ => by
    obtain ⟨child, hs, hc⟩ := find_dir_cons_eq_ok_some.mp h
    simp only [graft, (step_eq_ok_iff.mp hs).2]
    by_cases hq : q = a
    · subst hq
      have hp' : ¬ t <+: Qr := fun h' => hp (List.cons_prefix_cons.mpr ⟨rfl, h'⟩)
      obtain ⟨child', hs', hc'⟩ := find_dir_cons_eq_ok_some.mp hQ
      have hch : child' = child := by
        rw [hs] at hs'
        cases hs'
        rfl
      rw [hch] at hc'
      cases Qr with
      | nil =>
        obtain ⟨e, he⟩ : ∃ e, child = dir e := by
          simp only [find, Except.ok.injEq, Option.some.injEq] at hc'
          exact ⟨eQ, hc'⟩
        subst he
        obtain ⟨e', he'⟩ := exists_graft_dir e t es'
        exact ⟨e', by simp only [find, step_setEntry_self hs, he']⟩
      | cons b Qt =>
        obtain ⟨e, he⟩ := find_graft_of_not_prefix es' hc hp' hc'
        exact ⟨e, find_dir_cons_eq_ok_some.mpr ⟨_, step_setEntry_self hs _, he⟩⟩
    · rw [find_dir_setEntry_ne hq]
      exact ⟨eQ, hQ⟩

theorem dir_of_find_dir : ∀ {n : Node} {r : List String} {e : List (String × Node)},
    n.find r = .ok (some (.dir e)) → ∃ e0, n = .dir e0
  | .dir e0, _, _, _ => ⟨e0, rfl⟩
  | .file _, [], _, h => by simp [find] at h
  | .file _, _ :: _, _, h => by simp [find] at h

theorem setEntry_setEntry (name : String) (x y : Node) :
    ∀ es : List (String × Node),
      setEntry name (some x) (setEntry name (some y) es) = setEntry name (some x) es
  | [] => by simp [setEntry]
  | (n, w) :: rest => by
    simp only [setEntry]
    split
    · simp [setEntry]
    · split
      · simp [setEntry]
      · rename_i hne hlt
        simp only [setEntry, hne, hlt, if_false, setEntry_setEntry name x y rest]

/-- A second graft at the same names replaces the first. -/
theorem graft_graft (es1 es2 : List (String × Node)) :
    ∀ (n : Node) (here : List String), (n.graft here es1).graft here es2 = n.graft here es2
  | _, [] => rfl
  | .file _, _ :: _ => rfl
  | .dir entries, a :: t => by
    cases hl : lookup a entries with
    | none => simp only [graft, hl]
    | some child =>
      simp only [graft, hl, lookup_setEntry_self, graft_graft es1 es2 child t,
        setEntry_setEntry]

end Node

namespace PathText

/-- A name the walk takes as an entry: not empty, no separator in it, neither `.` nor `..`. -/
def Plain (n : String) : Prop := n ≠ "" ∧ '/' ∉ n.toList ∧ n ≠ "." ∧ n ≠ ".."

theorem isAbsolute_eq_false_of_not_mem {n : String} (h : '/' ∉ n.toList) : isAbsolute n = false := by
  unfold isAbsolute
  cases hn : n.toList with
  | nil => rfl
  | cons c cs =>
    have hc : c ≠ '/' := fun hc => h (hn ▸ hc ▸ List.mem_cons_self)
    simp [hc]

/-- A path split at a separator has the names of its two sides. -/
theorem components_of_toList_eq {p : String} {u v : List Char} (h : p.toList = u ++ '/' :: v) :
    components p = components (String.ofList u) ++ components (String.ofList v) := by
  simp only [components, h, String.toList_ofList, List.splitOn_append_cons_self, List.map_append,
    List.filter_append]

theorem components_ofList_nil : components (String.ofList []) = [] := rfl

theorem components_of_plain {n : String} (h : n ≠ "") (hs : '/' ∉ n.toList) :
    components n = [n] := by
  simp only [components, List.splitOn_eq_singleton hs, List.map_cons, List.map_nil,
    String.ofList_toList]
  simp [String.isEmpty_eq_false_iff.mpr h]

/-- The text of a name joined onto a directory: the name itself onto an empty directory, and
otherwise the directory's text up to a separator, the separator, and the name. -/
theorem join_cases (dir : String) {n : String} (h : isAbsolute n = false) :
    (dir = "" ∧ join dir n = n) ∨
      ∃ u, (join dir n).toList = u ++ '/' :: n.toList ∧
        (dir.toList = u ++ ['/'] ∨ (dir.toList = u ∧ u ≠ [])) := by
  unfold join
  simp only [h, Bool.false_eq_true, if_false]
  by_cases he : dir.isEmpty
  · exact .inl ⟨String.isEmpty_iff.mp he, by simp [he]⟩
  · right
    have hne : dir.toList ≠ [] := fun h' => he (String.isEmpty_iff.mpr (String.toList_eq_nil_iff.mp h'))
    simp only [he, Bool.false_eq_true, if_false]
    by_cases hs : endsWithSeparator dir
    · obtain ⟨u, hu⟩ : ∃ u, dir.toList = u ++ ['/'] := by
        unfold endsWithSeparator at hs
        have hl : dir.toList.getLast? = some '/' := by simpa using hs
        exact ⟨dir.toList.dropLast, (List.dropLast_append_getLast? _ hl).symm⟩
      refine ⟨u, ?_, .inl hu⟩
      simp [hs, String.toList_append, hu]
    · refine ⟨dir.toList, ?_, .inr ⟨rfl, hne⟩⟩
      simp [hs, String.toList_append]

theorem components_join (dir : String) {n : String} (hn : Plain n) :
    components (join dir n) = components dir ++ [n] := by
  obtain ⟨hne, hs, -, -⟩ := hn
  rcases join_cases dir (isAbsolute_eq_false_of_not_mem hs) with ⟨rfl, hj⟩ | ⟨u, hj, hd⟩
  · rw [hj, components_of_plain hne hs]
    rfl
  · rw [components_of_toList_eq hj, String.ofList_toList, components_of_plain hne hs]
    rcases hd with hd | ⟨hd, -⟩
    · rw [components_of_toList_eq (v := []) hd, components_ofList_nil, List.append_nil]
    · rw [← hd, String.ofList_toList]

theorem isAbsolute_join (dir : String) {n : String} (hn : Plain n) :
    isAbsolute (join dir n) = isAbsolute dir := by
  obtain ⟨hne, hs, -, -⟩ := hn
  rcases join_cases dir (isAbsolute_eq_false_of_not_mem hs) with ⟨rfl, hj⟩ | ⟨u, hj, hd⟩
  · rw [hj, isAbsolute_eq_false_of_not_mem hs]
    rfl
  · unfold isAbsolute
    rw [hj]
    rcases hd with hd | ⟨hd, hu⟩
    · rw [hd]
      cases u <;> rfl
    · rw [hd, List.head?_append_of_ne_nil _ hu]

theorem endsWithSeparator_join (dir : String) {n : String} (hn : Plain n) :
    endsWithSeparator (join dir n) = false := by
  obtain ⟨hne, hs, -, -⟩ := hn
  have hnl : n.toList ≠ [] := fun h => hne (String.toList_eq_nil_iff.mp h)
  have hlast : n.toList.getLast? ≠ some '/' := fun h => hs (List.mem_of_getLast? h)
  unfold endsWithSeparator
  rcases join_cases dir (isAbsolute_eq_false_of_not_mem hs) with ⟨rfl, hj⟩ | ⟨u, hj, -⟩
  · rw [hj]
    simpa using hlast
  · rw [hj, show u ++ '/' :: n.toList = (u ++ ['/']) ++ n.toList by simp,
      List.getLast?_append_of_ne_nil _ hnl]
    simpa using hlast

theorem mem_join {dir n : String} (hn : isAbsolute n = false) {c : Char}
    (h : c ∈ (join dir n).toList) : c ∈ dir.toList ∨ c = '/' ∨ c ∈ n.toList := by
  rcases join_cases dir hn with ⟨-, hj⟩ | ⟨u, hj, hd⟩
  · rw [hj] at h
    exact .inr (.inr h)
  · rw [hj] at h
    rcases List.mem_append.mp h with h | h
    · rcases hd with hd | ⟨hd, -⟩ <;> simp [hd, h]
    · rcases List.mem_cons.mp h with h | h
      · exact .inr (.inl h)
      · exact .inr (.inr h)

theorem join_append (dir : String) {n : String} (hn : isAbsolute n = false) (hne : n ≠ "")
    (s : String) : join dir n ++ s = join dir (n ++ s) := by
  have hns : isAbsolute (n ++ s) = false := by
    have hnl : n.toList ≠ [] := fun h => hne (String.toList_eq_nil_iff.mp h)
    unfold isAbsolute at hn ⊢
    rw [String.toList_append, List.head?_append_of_ne_nil _ hnl]
    exact hn
  unfold join
  simp only [hn, hns, Bool.false_eq_true, if_false]
  split
  · rfl
  · split <;> simp [String.append_assoc]

theorem names_join (dir : String) {n : String} (hn : Plain n) :
    names (join dir n) = names dir ++ [n] := by
  unfold names
  rw [components_join dir hn, List.filter_append]
  simp [hn.2.2.1]

theorem fileName_join (dir : String) {n : String} (hn : Plain n) :
    fileName (join dir n) = some n := by
  unfold fileName
  rw [names_join dir hn, List.getLast?_concat]
  simp [hn.2.2.2]

end PathText

namespace Disk

/-- Where a directory path leads: the walk of all its names from where it starts. -/
def walk (d : Disk) (p : String) : Except OsError (List String) :=
  (PathText.components p).foldlM d.descend (origin p)

/-- Every directory of one disk is a directory of the other. -/
def KeepsDirs (d d' : Disk) : Prop :=
  ∀ Q e, d.root.find Q = .ok (some (.dir e)) → ∃ e', d'.root.find Q = .ok (some (.dir e'))

section Keeping

variable {d d' : Disk}

theorem descend_of_keepsDirs (hk : KeepsDirs d d') {here q : List String} {name : String}
    (h : d.descend here name = .ok q) : d'.descend here name = .ok q := by
  unfold descend at h ⊢
  split_ifs at h ⊢
  · exact h
  · exact h
  · split at h
    · rename_i e hf
      obtain ⟨e', he'⟩ := hk _ _ hf
      rw [he']
      exact h
    all_goals cases h

theorem foldlM_descend_of_keepsDirs (hk : KeepsDirs d d') :
    ∀ {names : List String} {pos q : List String},
      names.foldlM d.descend pos = .ok q → names.foldlM d'.descend pos = .ok q
  | [], _, _, h => h
  | nm :: rest, pos, q, h => by
    rw [List.foldlM_cons] at h ⊢
    cases hd : d.descend pos nm with
    | error e =>
      rw [hd] at h
      cases h
    | ok p =>
      rw [hd] at h
      rw [descend_of_keepsDirs hk hd]
      exact foldlM_descend_of_keepsDirs hk h

theorem walk_of_keepsDirs (hk : KeepsDirs d d') {p : String} {here : List String}
    (h : d.walk p = .ok here) : d'.walk p = .ok here :=
  foldlM_descend_of_keepsDirs hk h

end Keeping

/-- Grafting new entries into a directory that keep each of its subdirectories keeps every
directory a directory. -/
theorem keepsDirs_graft_keeping {d : Disk} {here : List String} {es es' : List (String × Node)}
    (h : d.root.find here = .ok (some (.dir es)))
    (hkeep : ∀ m e, Node.lookup m es = some (.dir e) → Node.lookup m es' = some (.dir e)) :
    KeepsDirs d ⟨d.root.graft here es'⟩ := by
  intro Q eQ hQ
  by_cases hp : here <+: Q
  · obtain ⟨rest, rfl⟩ := hp
    rw [Node.find_append h] at hQ
    show ∃ e', (d.root.graft here es').find (here ++ rest) = .ok (some (.dir e'))
    rw [Node.find_append (Node.find_graft_self es' h)]
    cases rest with
    | nil => exact ⟨es', rfl⟩
    | cons m r =>
      -- below the grafted directory, a path to a directory runs through one of its subdirectories
      obtain ⟨child, hs, hc⟩ := Node.find_dir_cons_eq_ok_some.mp hQ
      obtain ⟨e0, rfl⟩ := Node.dir_of_find_dir hc
      have hs' : Node.step es' m = .ok (some (.dir e0)) :=
        Node.step_eq_ok_iff.mpr ⟨(Node.step_eq_ok_iff.mp hs).1, hkeep m e0 (Node.step_eq_ok_iff.mp hs).2⟩
      exact ⟨eQ, Node.find_dir_cons_eq_ok_some.mpr ⟨_, hs', hc⟩⟩
  · exact Node.find_graft_of_not_prefix es' h hp hQ

/-- Grafting new entries into a directory without subdirectories keeps every directory a
directory. -/
theorem keepsDirs_graft {d : Disk} {here : List String} {es : List (String × Node)}
    (h : d.root.find here = .ok (some (.dir es)))
    (hnd : ∀ m e, Node.lookup m es ≠ some (.dir e)) (es' : List (String × Node)) :
    KeepsDirs d ⟨d.root.graft here es'⟩ :=
  keepsDirs_graft_keeping h fun m e hm => absurd hm (hnd m e)

/-- A plain name joined onto a directory path is that directory's entry, with no separator
after it. -/
theorem locate_join (d : Disk) {dir n : String} (hn : PathText.Plain n)
    (hnul : Char.ofNat 0 ∉ (PathText.join dir n).toList)
    (hlen : (PathText.join dir n).utf8ByteSize < pathMax) :
    d.locate (PathText.join dir n) = (d.walk dir).map fun here => .entry here n false := by
  have hc := PathText.components_join dir hn
  have hne : (PathText.join dir n).isEmpty = false := by
    rw [String.isEmpty_eq_false_iff]
    intro he
    rw [he] at hc
    cases hcd : PathText.components dir <;> simp [hcd] at hc <;> cases hc
  have hnul' : (PathText.join dir n).toList.contains (Char.ofNat 0) = false := by
    simpa using hnul
  have horigin : origin (PathText.join dir n) = origin dir := by
    simp only [origin, PathText.isAbsolute_join dir hn]
  unfold locate walk
  simp only [hnul', hne, Bool.false_eq_true, if_false, not_le.mpr hlen, hc,
    List.dropLast_concat, List.getLast?_concat, hn.2.2.1, hn.2.2.2, horigin,
    PathText.endsWithSeparator_join dir hn]
  cases (PathText.components dir).foldlM d.descend (origin dir) <;> rfl

/-- The directory a spot names, if it is one: a whole directory, or an entry that is a
directory. -/
def dirOf (d : Disk) : Spot → Except OsError (List String)
  | .whole names => .ok names
  | .entry parent name _ =>
    match d.root.find (parent ++ [name]) with
    | .ok (some (.dir _)) => .ok (parent ++ [name])
    | .ok (some (.file _)) => .error .notDirectory
    | .ok none => .error .notFound
    | .error e => .error e

/-- A path that passes the checks made before any walk is walked to the directory its spot
names. -/
theorem walk_eq_locate (d : Disk) {p : String}
    (hnul : p.toList.contains (Char.ofNat 0) = false) (hlen : p.utf8ByteSize < pathMax)
    (hne : p.isEmpty = false) : d.walk p = (d.locate p).bind d.dirOf := by
  unfold walk locate
  simp only [hnul, hne, Bool.false_eq_true, if_false, not_le.mpr hlen]
  rcases List.eq_nil_or_concat (PathText.components p) with h | ⟨init, last, h⟩
  · rw [h]
    rfl
  · rw [h, List.concat_eq_append, List.foldlM_append, List.dropLast_concat,
      List.getLast?_concat]
    cases init.foldlM d.descend (origin p) with
    | error e => rfl
    | ok here =>
      simp only [bind, Except.bind, List.foldlM_cons, List.foldlM_nil, pure, Except.pure]
      unfold descend
      by_cases h1 : last = "."
      · simp [h1, dirOf]
      · by_cases h2 : last = ".."
        · simp [h2, dirOf]
        · simp only [h1, h2, if_false, dirOf]
          cases d.root.find (here ++ [last]) with
          | error e => rfl
          | ok o =>
            rcases o with _ | _ | _ <;> rfl

/-- What stands at a spot that names a directory is what stands at the directory. -/
theorem nodeAt_of_dirOf {d : Disk} {spot : Spot} {here : List String}
    (h : d.dirOf spot = .ok here) : d.nodeAt spot = d.root.find here := by
  cases spot with
  | whole names =>
    cases h
    rfl
  | entry parent name s =>
    simp only [dirOf] at h
    split at h <;> cases h
    rfl

/-- The checks a path passed when it was located. -/
theorem checks_of_locate {d : Disk} {p : String} {spot : Spot} (h : d.locate p = .ok spot) :
    p.toList.contains (Char.ofNat 0) = false ∧ p.utf8ByteSize < pathMax ∧ p.isEmpty = false := by
  unfold locate at h
  by_cases h1 : p.toList.contains (Char.ofNat 0) = true
  · rw [if_pos h1] at h
    cases h
  · rw [if_neg h1] at h
    by_cases h2 : p.utf8ByteSize ≥ pathMax
    · rw [if_pos h2] at h
      cases h
    · rw [if_neg h2] at h
      by_cases h3 : p.isEmpty = true
      · rw [if_pos h3] at h
        cases h
      · exact ⟨by simpa using h1, by omega, by simpa using h3⟩

/-- A path of `pathMax` bytes or more is refused before any walk. -/
theorem locate_of_long {d : Disk} {p : String} (hnul : Char.ofNat 0 ∉ p.toList)
    (hlen : pathMax ≤ p.utf8ByteSize) : d.locate p = .error .nameTooLong := by
  have hc : p.toList.contains (Char.ofNat 0) = false := by simpa using hnul
  unfold locate
  rw [hc, if_neg Bool.false_ne_true, if_pos hlen]
  rfl

theorem readFile_of_locate {d : Disk} {p : String} {e : OsError} (h : d.locate p = .error e) :
    d.readFile p = .error e := by
  unfold readFile
  rw [h]
  rfl

/-- A path the disk takes before any walk: no NUL character, and shorter than the limit. -/
def Admits (p : String) : Prop := Char.ofNat 0 ∉ p.toList ∧ p.utf8ByteSize < pathMax

/-- The directory at path `dir` is walked to `here` and holds the entries `es`. -/
structure DirAt (d : Disk) (dir : String) (here : List String) (es : List (String × Node)) :
    Prop where
  walk : d.walk dir = .ok here
  find : d.root.find here = .ok (some (.dir es))

section Entry

variable {d : Disk} {dir n : String} {here : List String} {es : List (String × Node)}

/-- Grafting new entries into a directory without subdirectories leaves it where it was. -/
theorem DirAt.graft (hd : d.DirAt dir here es) (hnd : ∀ m e, Node.lookup m es ≠ some (.dir e))
    (es' : List (String × Node)) : (⟨d.root.graft here es'⟩ : Disk).DirAt dir here es' :=
  ⟨walk_of_keepsDirs (keepsDirs_graft hd.find hnd es') hd.walk, Node.find_graft_self es' hd.find⟩

/-- Grafting new entries that keep each subdirectory of a directory leaves it where it was. -/
theorem DirAt.graft_keeping (hd : d.DirAt dir here es) {es' : List (String × Node)}
    (hkeep : ∀ m e, Node.lookup m es = some (.dir e) → Node.lookup m es' = some (.dir e)) :
    (⟨d.root.graft here es'⟩ : Disk).DirAt dir here es' :=
  ⟨walk_of_keepsDirs (keepsDirs_graft_keeping hd.find hkeep) hd.walk,
    Node.find_graft_self es' hd.find⟩

/-- A path names at most one directory. -/
theorem DirAt.unique (hd : d.DirAt dir here es) {here' : List String}
    {es' : List (String × Node)} (hd' : d.DirAt dir here' es') : here' = here ∧ es' = es := by
  have hhere : here' = here := Except.ok.inj (hd'.walk.symm.trans hd.walk)
  subst hhere
  have hfind := hd'.find.symm.trans hd.find
  simp only [Except.ok.injEq, Option.some.injEq, Node.dir.injEq] at hfind
  exact ⟨rfl, hfind⟩

theorem DirAt.locate_join (hd : d.DirAt dir here es) (hn : PathText.Plain n)
    (hp : Admits (PathText.join dir n)) :
    d.locate (PathText.join dir n) = .ok (.entry here n false) := by
  rw [Disk.locate_join d hn hp.1 hp.2, hd.walk]
  rfl

theorem DirAt.nodeAt_entry (hd : d.DirAt dir here es) (n : String) (s : Bool) :
    d.nodeAt (.entry here n s) = Node.step es n := by
  simp only [nodeAt, Node.find_append hd.find]
  simp [Node.find]

theorem DirAt.readFile_join (hd : d.DirAt dir here es) (hn : PathText.Plain n)
    (hp : Admits (PathText.join dir n)) :
    d.readFile (PathText.join dir n) = (Node.step es n).bind fun
      | none => .error .notFound
      | some (.file t) => .ok t
      | some (.dir _) => .error .isDirectory := by
  unfold readFile
  rw [hd.locate_join hn hp]
  simp only [bind, Except.bind, hd.nodeAt_entry]
  rcases Node.step es n with e | _ | _ | _ <;> rfl

theorem DirAt.writeFile_join (hd : d.DirAt dir here es) (hn : PathText.Plain n)
    (hp : Admits (PathText.join dir n)) (t : String) :
    d.writeFile (PathText.join dir n) t = (Node.step es n).bind fun
      | some (.dir _) => .error .isDirectory
      | _ => .ok ⟨d.root.graft here (Node.setEntry n (some (.file t)) es)⟩ := by
  unfold writeFile updateAt
  rw [hd.locate_join hn hp]
  simp only [bind, Except.bind, Node.update_append_singleton _ n hd.find]
  rcases Node.step es n with e | _ | _ | _ <;> rfl

theorem DirAt.removeFile_join (hd : d.DirAt dir here es) (hn : PathText.Plain n)
    (hp : Admits (PathText.join dir n)) :
    d.removeFile (PathText.join dir n) = (Node.step es n).bind fun
      | none => .error .notFound
      | some (.dir _) => .error .isDirectory
      | some (.file _) => .ok ⟨d.root.graft here (Node.setEntry n none es)⟩ := by
  unfold removeFile updateAt
  rw [hd.locate_join hn hp]
  simp only [bind, Except.bind, Node.update_append_singleton _ n hd.find]
  rcases Node.step es n with e | _ | _ | _ <;> rfl

/-- Renaming a file onto a name of the same directory that is no directory moves its text
there and drops the old name. -/
theorem DirAt.rename_join (hd : d.DirAt dir here es) {a b t : String} {old : Option Node}
    (ha : PathText.Plain a) (hpa : Admits (PathText.join dir a)) (hb : PathText.Plain b)
    (hpb : Admits (PathText.join dir b)) (hsa : Node.step es a = .ok (some (.file t)))
    (hsb : Node.step es b = .ok old) (hold : ∀ e, old ≠ some (.dir e)) :
    d.rename (PathText.join dir a) (PathText.join dir b) =
      .ok ⟨d.root.graft here (Node.setEntry a none (Node.setEntry b (some (.file t)) es))⟩ := by
  have hfind1 := Node.find_graft_self (Node.setEntry b (some (.file t)) es) hd.find
  have hsa1 : Node.step (Node.setEntry b (some (.file t)) es) a =
      .ok (Node.lookup a (Node.setEntry b (some (.file t)) es)) :=
    Node.step_eq_ok_iff.mpr ⟨(Node.step_eq_ok_iff.mp hsa).1, rfl⟩
  unfold rename updateAt
  rw [hd.locate_join ha hpa, hd.locate_join hb hpb]
  simp only [bind, Except.bind, pure, Except.pure, hd.nodeAt_entry, hsa, hsb,
    Node.update_append_singleton _ b hd.find]
  rw [Node.update_append_singleton _ a hfind1, hsa1]
  simp only [Except.bind, Node.graft_graft]

theorem admits_of_locate {p : String} {spot : Spot} (h : d.locate p = .ok spot) : Admits p :=
  ⟨by simpa using (checks_of_locate h).1, (checks_of_locate h).2.1⟩

theorem admits_of_removeFile {p : String} {d' : Disk} (h : d.removeFile p = .ok d') : Admits p := by
  unfold removeFile at h
  cases hl : d.locate p with
  | error e =>
    rw [hl] at h
    cases h
  | ok spot => exact admits_of_locate hl

theorem admits_of_readFile {p t : String} (h : d.readFile p = .ok t) : Admits p := by
  cases hl : d.locate p with
  | error e =>
    rw [readFile_of_locate hl] at h
    cases h
  | ok spot => exact admits_of_locate hl

/-- A path the disk does not take is refused before any walk, alike on every disk. -/
theorem locate_of_not_admits {p : String} (hp : ¬ Admits p) :
    ∃ e, ∀ d0 : Disk, d0.locate p = .error e := by
  by_cases hnul : Char.ofNat 0 ∈ p.toList
  · have hc : p.toList.contains (Char.ofNat 0) = true := by simpa using hnul
    refine ⟨.nulInPath, fun d0 => ?_⟩
    unfold locate
    rw [hc, if_pos rfl]
    rfl
  · have hlen : pathMax ≤ p.utf8ByteSize := by
      by_contra hlt
      exact hp ⟨hnul, Nat.lt_of_not_le hlt⟩
    exact ⟨.nameTooLong, fun d0 => locate_of_long hnul hlen⟩

/-- Two disks with a directory at the same place read a plain name in it alike when the name has
the same entry in both. -/
theorem DirAt.readFile_join_congr {d' : Disk} {es' : List (String × Node)}
    (hd : d.DirAt dir here es) (hd' : d'.DirAt dir here es') (hn : PathText.Plain n)
    (hstep : Node.step es' n = Node.step es n) :
    d'.readFile (PathText.join dir n) = d.readFile (PathText.join dir n) := by
  by_cases hp : Admits (PathText.join dir n)
  · rw [hd.readFile_join hn hp, hd'.readFile_join hn hp, hstep]
  · obtain ⟨e, he⟩ := locate_of_not_admits hp
    rw [readFile_of_locate (he d), readFile_of_locate (he d')]

/-- A file read at a plain name of a directory that answers is that entry's text. -/
theorem DirAt.step_of_readFile (hd : d.DirAt dir here es) (hn : PathText.Plain n) {t : String}
    (h : d.readFile (PathText.join dir n) = .ok t) : Node.step es n = .ok (some (.file t)) := by
  cases hl : d.locate (PathText.join dir n) with
  | error e =>
    unfold readFile at h
    rw [hl] at h
    cases h
  | ok spot =>
    rw [hd.readFile_join hn (admits_of_locate hl)] at h
    rcases hs : Node.step es n with e | _ | t' | e' <;> rw [hs] at h <;> cases h
    rfl

/-- A file written at a plain name of a directory was written within the limits. -/
theorem DirAt.step_of_writeFile (hd : d.DirAt dir here es) (hn : PathText.Plain n) {t : String}
    {d' : Disk} (h : d.writeFile (PathText.join dir n) t = .ok d') :
    Admits (PathText.join dir n) ∧ ∃ old, Node.step es n = .ok old := by
  cases hl : d.locate (PathText.join dir n) with
  | error e =>
    unfold writeFile at h
    rw [hl] at h
    cases h
  | ok spot =>
    have hp := admits_of_locate hl
    refine ⟨hp, ?_⟩
    rw [hd.writeFile_join hn hp] at h
    rcases hs : Node.step es n with e | old
    · rw [hs] at h
      cases h
    · exact ⟨old, rfl⟩

/-- A file removed at a plain name of a directory was a file there. -/
theorem DirAt.step_of_removeFile (hd : d.DirAt dir here es) (hn : PathText.Plain n) {d' : Disk}
    (h : d.removeFile (PathText.join dir n) = .ok d') : ∃ t, Node.step es n = .ok (some (.file t)) := by
  cases hl : d.locate (PathText.join dir n) with
  | error e =>
    unfold removeFile at h
    rw [hl] at h
    cases h
  | ok spot =>
    rw [hd.removeFile_join hn (admits_of_locate hl)] at h
    rcases hs : Node.step es n with e | _ | t | e' <;> rw [hs] at h <;> cases h
    exact ⟨t, rfl⟩

theorem DirAt.locate_dir (hd : d.DirAt dir here es) (hp : Admits dir) (hne : dir ≠ "") :
    ∃ spot, d.locate dir = .ok spot ∧ d.nodeAt spot = .ok (some (.dir es)) := by
  have hw := walk_eq_locate d (by simpa using hp.1) hp.2 (String.isEmpty_eq_false_iff.mpr hne)
  rw [hd.walk] at hw
  cases hl : d.locate dir with
  | error e =>
    rw [hl] at hw
    cases hw
  | ok spot =>
    rw [hl] at hw
    exact ⟨spot, rfl, (nodeAt_of_dirOf hw.symm).trans hd.find⟩

theorem DirAt.listDir_eq (hd : d.DirAt dir here es) (hp : Admits dir) (hne : dir ≠ "") :
    d.listDir dir = .ok (es.map (·.1)) := by
  obtain ⟨spot, hl, hn⟩ := hd.locate_dir hp hne
  unfold listDir
  rw [hl]
  simp only [bind, Except.bind, hn]
  rfl

theorem DirAt.isDir_eq (hd : d.DirAt dir here es) (hp : Admits dir) (hne : dir ≠ "") :
    d.isDir dir = true := by
  obtain ⟨spot, hl, hn⟩ := hd.locate_dir hp hne
  unfold isDir kindOf
  rw [hl]
  simp only [bind, Except.bind, hn]
  rfl

/-- A path listed as a directory is walked to it. -/
theorem dirAt_of_listDir {names : List String} (h : d.listDir dir = .ok names) :
    ∃ here es, d.DirAt dir here es ∧ es.map (·.1) = names ∧ Admits dir ∧ dir ≠ "" := by
  unfold listDir at h
  cases hl : d.locate dir with
  | error e =>
    rw [hl] at h
    cases h
  | ok spot =>
    obtain ⟨h1, h2, h3⟩ := checks_of_locate hl
    rw [hl] at h
    simp only [bind, Except.bind] at h
    cases hn : d.nodeAt spot with
    | error e =>
      rw [hn] at h
      cases h
    | ok o =>
      rw [hn] at h
      rcases o with _ | _ | es
      · cases h
      · cases h
      · obtain ⟨here, hw⟩ : ∃ here, d.dirOf spot = .ok here := by
          cases spot with
          | whole names => exact ⟨names, rfl⟩
          | entry parent name s =>
            simp only [nodeAt] at hn
            exact ⟨parent ++ [name], by simp only [dirOf, hn]⟩
        refine ⟨here, es, ⟨?_, ?_⟩, ?_, ⟨by simpa using h1, h2⟩, ?_⟩
        · rw [walk_eq_locate d h1 h2 h3, hl]
          exact hw
        · rw [← nodeAt_of_dirOf hw, hn]
        · cases h
          rfl
        · simpa using h3

end Entry

end Disk

end Plugboard
