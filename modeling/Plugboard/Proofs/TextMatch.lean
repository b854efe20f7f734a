import Plugboard.Proofs.Pages
/-!
# Free-text matching finds verbatim occurrences

A free-text query and the texts of a registration are lowered separately, and the lowered query
is looked for in each lowered text; relevance lowers its keywords and the fields it scores the
same way. Lowering is the same character by character wherever a character stands, except for a
capital sigma, which becomes the final `ς` or the medial `σ` by its neighbours. So a text with no
capital sigma lowers inside a longer text exactly as it lowers alone, and where it occurs verbatim
its lowered form occurs in the lowered text.

Main statement: a query whose trimmed text has no capital sigma matches every registration in
whose id, name, description or tags it occurs verbatim, so the stores' searches and the
discovery search find that registration wherever their filters admit it; a non-empty keyword
with no capital sigma earns the weight of every field it occurs in; and an empty keyword earns
nothing.
-/

namespace Plugboard

namespace Text

/-- Occurring in a list of characters is being one of its infixes. -/
theorem occursIn_iff_isInfix (sub l : List Char) : occursIn sub l = true ↔ sub <:+: l := by
  induction l with
  | nil => simp [occursIn, List.infix_nil]
  | cons c cs ih => simp [occursIn, ih, List.infix_cons_iff, List.isPrefixOf_iff_prefix]

theorem contains_iff_isInfix (s sub : String) : contains s sub = true ↔ sub.toList <:+: s.toList :=
  occursIn_iff_isInfix _ _

/-- How one character lowers between the characters before it, nearest first, and those after
it: a capital sigma by the final-sigma rule, every other character as it lowers alone. -/
def lowerAt (before : List Char) (c : Char) (after : List Char) : List Char :=
  if c = 'Σ' then [if casedPast before && !casedPast after then 'ς' else 'σ'] else lowerChar c

theorem lowerFrom_cons (before : List Char) (c : Char) (cs : List Char) :
    lowerFrom before (c :: cs) = lowerAt before c cs ++ lowerFrom (c :: before) cs := rfl

variable {before after : List Char} {c : Char}

theorem lowerAt_of_ne_sigma (h : c ≠ 'Σ') : lowerAt before c after = lowerChar c := if_neg h

theorem lowerChar_ne_nil (c : Char) : lowerChar c ≠ [] := by
  unfold lowerChar
  split
  · simp
  · split <;> simp

theorem lowerAt_ne_nil : lowerAt before c after ≠ [] := by
  unfold lowerAt
  split
  · simp
  · exact lowerChar_ne_nil c

theorem lowerFrom_eq_nil_iff {cs : List Char} : lowerFrom before cs = [] ↔ cs = [] := by
  cases cs with
  | nil => simp [lowerFrom_nil]
  | cons c cs => simp [lowerFrom_cons, lowerAt_ne_nil]

theorem lower_toList (s : String) : (lower s).toList = lowerFrom [] s.toList :=
  String.toList_ofList

/-- Only the empty text lowers to the empty text. -/
theorem lower_eq_empty_iff (s : String) : lower s = "" ↔ s = "" := by
  rw [← String.toList_eq_nil_iff, lower_toList, lowerFrom_eq_nil_iff, String.toList_eq_nil_iff]

/-- The characters of a text lower first, leaving what follows them to be lowered knowing them. -/
theorem lowerFrom_append (before xs ys : List Char) :
    ∃ low, lowerFrom before (xs ++ ys) = low ++ lowerFrom (xs.reverse ++ before) ys := by
  induction xs generalizing before with
  | nil => exact ⟨[], rfl⟩
  | cons x xs ih =>
    obtain ⟨low, h⟩ := ih (x :: before)
    refine ⟨lowerAt before x (xs ++ ys) ++ low, ?_⟩
    simp [lowerFrom_cons, h]

/-- With no capital sigma, the characters of a text lower as each lowers alone, whatever stands
around them. -/
theorem lowerFrom_append_of_sigma_free {k : List Char} (hk : 'Σ' ∉ k) (before rest : List Char) :
    lowerFrom before (k ++ rest) = k.flatMap lowerChar ++ lowerFrom (k.reverse ++ before) rest := by
  induction k generalizing before with
  | nil => rfl
  | cons c cs ih =>
    have hc : c ≠ 'Σ' := fun h => hk (h ▸ List.mem_cons_self)
    have hcs : 'Σ' ∉ cs := fun h => hk (List.mem_cons_of_mem c h)
    simp [lowerFrom_cons, lowerAt_of_ne_sigma hc, ih hcs]

/-- A text with no capital sigma that occurs verbatim in another still occurs in it once both are
lowered. -/
theorem lower_isInfix_lower {k s : String} (hk : 'Σ' ∉ k.toList) (h : k.toList <:+: s.toList) :
    (lower k).toList <:+: (lower s).toList := by
  obtain ⟨pre, post, hs⟩ := h
  have halone : (lower k).toList = k.toList.flatMap lowerChar := by
    simpa [lower_toList, lowerFrom_nil] using lowerFrom_append_of_sigma_free hk [] []
  obtain ⟨low, hlow⟩ := lowerFrom_append [] pre (k.toList ++ post)
  refine ⟨low, lowerFrom (k.toList.reverse ++ (pre.reverse ++ [])) post, ?_⟩
  rw [halone, lower_toList s, ← hs, List.append_assoc pre, hlow, lowerFrom_append_of_sigma_free hk,
    List.append_assoc]

theorem contains_lower_of_isInfix {k s : String} (hk : 'Σ' ∉ k.toList) (h : k.toList <:+: s.toList) :
    contains (lower s) (lower k) = true :=
  (contains_iff_isInfix _ _).2 (lower_isInfix_lower hk h)

end Text

/-- A text occurs verbatim in a registration: in its id, its name, its description or one of its
tags. -/
def Registration.Mentions (r : Registration) (q : String) : Prop :=
  q.toList <:+: r.id.toList ∨ q.toList <:+: r.name.toList ∨ q.toList <:+: r.description.toList ∨
    ∃ t ∈ r.tags, q.toList <:+: t.toList

variable {r : Registration} {q : String}

/-- A query with no capital sigma matches a registration it occurs in verbatim. -/
theorem matchesText_of_mentions (hq : 'Σ' ∉ (Text.trim q).toList)
    (hm : r.Mentions (Text.trim q)) : matchesText r q = true := by
  have hlow : ∀ {s : String}, (Text.trim q).toList <:+: s.toList →
      Text.contains (Text.lower s) (Text.lower (Text.trim q)) = true :=
    Text.contains_lower_of_isInfix hq
  rcases hm with h | h | h | ⟨t, ht, h⟩
  · simp [matchesText, hlow h]
  · simp [matchesText, hlow h]
  · simp [matchesText, hlow h]
  · simp only [matchesText, Bool.or_eq_true, List.any_eq_true]
    exact Or.inr ⟨t, ht, hlow h⟩

namespace Filter

/-- A filter that cuts no page keeps exactly what it admits. -/
theorem mem_select_unpaged (f : Filter) (rs : List Registration) :
    r ∈ ({ f with offset := none, limit := none } : Filter).select rs ↔ r ∈ rs ∧ f.admits r = true := by
  simp only [select, page, Option.getD_none, List.drop_zero]
  rw [(byId_ranks _).1.mem_iff, List.mem_filter]
  rfl

/-- What a store's search answers from records holding a registration its filter admits and its
query matches, with no page cut, holds that registration. -/
theorem mem_select_search {rs : List Registration} (f : Filter) (hr : r ∈ rs)
    (ha : f.admits r = true) (hmatch : matchesText r q = true) :
    r ∈ ({ f with offset := none, limit := none } : Filter).select (rs.filter (matchesText · q)) :=
  (mem_select_unpaged f _).2 ⟨List.mem_filter.2 ⟨hr, hmatch⟩, ha⟩

end Filter

namespace Discovery

/-- A search ranks every active registration its facets admit and its query matches, so a page
from the start as long as the registrations holds it. -/
theorem mem_search_of_matches {plugins : List Registration} (s : Search) (hr : r ∈ plugins)
    (ha : ({ s.filter with status := some .active } : Filter).admits r = true)
    (hmatch : matchesText r s.query = true) :
    r ∈ (search plugins { s with offset := 0, limit := plugins.length }).plugins := by
  have hperm := searchRanking_perm plugins s
  have hlen : (searchRanking plugins s).length ≤ plugins.length := by
    rw [hperm.length_eq]
    exact (List.length_filter_le _ _).trans (List.length_filter_le _ _)
  have hrank : r ∈ searchRanking plugins s :=
    hperm.mem_iff.2 (List.mem_filter.2 ⟨List.mem_filter.2 ⟨hr, ha⟩, hmatch⟩)
  have hsame : searchRanking plugins { s with offset := 0, limit := plugins.length } =
      searchRanking plugins s := rfl
  rw [search_eq, hsame]
  simpa [List.take_of_length_le hlen] using hrank

/-- The weight one keyword earns from the fields it is found in: the name, the description and
the tags. -/
def keywordWeight (inName inDescription inTags : Bool) : Float :=
  (if inName then nameWeight else 0.0) + (if inDescription then descriptionWeight else 0.0) +
    (if inTags then tagWeight else 0.0)

variable {name description k : String} {tags : List String}

theorem keywordScore_eq_weight (hk : k ≠ "") :
    keywordScore name description tags k =
      keywordWeight (Text.contains name (Text.lower k)) (Text.contains description (Text.lower k))
        (tags.any (Text.contains · (Text.lower k))) := by
  have hlow : (Text.lower k).isEmpty = false := by
    simpa [String.isEmpty_iff, Text.lower_eq_empty_iff] using hk
  simp [keywordScore, keywordWeight, hlow]

theorem keywordScore_empty : keywordScore name description tags "" = 0.0 := rfl

/-- A keyword found in some field earns its weight whole: the weight is then above the lowest
relevance, which does not replace it. -/
theorem relevance_one_keyword (hk : k ≠ "")
    (hfound : (Text.contains (Text.lower r.name) (Text.lower k) ||
      Text.contains (Text.lower r.description) (Text.lower k) ||
      (r.tags.map Text.lower).any (Text.contains · (Text.lower k))) = true) :
    relevance r [k] [] =
      keywordWeight (Text.contains (Text.lower r.name) (Text.lower k))
        (Text.contains (Text.lower r.description) (Text.lower k))
        ((r.tags.map Text.lower).any (Text.contains · (Text.lower k))) := by
  simp only [relevance, List.foldl_cons, List.foldl_nil, List.filter_nil, List.length_nil,
    keywordScore_eq_weight hk]
  revert hfound
  generalize Text.contains (Text.lower r.name) (Text.lower k) = a
  generalize Text.contains (Text.lower r.description) (Text.lower k) = b
  generalize (r.tags.map Text.lower).any (Text.contains · (Text.lower k)) = c
  cases a <;> cases b <;> cases c <;> decide +kernel

/-- An empty keyword earns nothing, so alone it leaves the lowest relevance. -/
theorem relevance_empty_keyword (r : Registration) : relevance r [""] [] = leastRelevance := by
  simp only [relevance, List.foldl_cons, List.foldl_nil, List.filter_nil, List.length_nil,
    keywordScore_empty]
  show (if (0.0 + 0.0 + Float.ofNat 0 * permissionWeight : Float) < leastRelevance then leastRelevance
    else 0.0 + 0.0 + Float.ofNat 0 * permissionWeight) = leastRelevance
  decide

end Discovery

namespace Registration

open Discovery

/-- Verbatim occurrences are found. For every registration: a query whose trimmed text has no
capital sigma and occurs verbatim in its id, name, description or a tag matches it; so a memory
store holding it, and a file store whose directory holds it, answer it to a search by any filter
that admits it and cuts no page, and a search of the active plugins whose facets admit it ranks
it, on a page from the start as long as the plugins. A non-empty keyword with no capital sigma
found verbatim in the name, the description or a tag earns, alone, the weight of that field,
with those of the other fields it is found in; an empty keyword earns nothing, which leaves the
lowest relevance. -/
theorem verbatim_occurrences_are_found (r : Registration) :
    (∀ q, 'Σ' ∉ (Text.trim q).toList → r.Mentions (Text.trim q) →
      matchesText r q = true ∧
      (∀ (m : MemoryStore) (env : Env) (f : Filter), m.closed = false → r ∈ m.records →
        f.admits r = true → ∃ found,
          (MemoryStore.search q { f with offset := none, limit := none }).exec m env =
            (.ok found, m, env) ∧ r ∈ found) ∧
      (∀ (fs : FileStore) (env : Env) (rs : List Registration) (f : Filter),
        fs.Holds env.disk rs → fs.closed = false → fs.Lists → r ∈ rs → f.admits r = true →
        ∃ found, (FileStore.search q { f with offset := none, limit := none }).exec fs env =
          (.ok found, fs, env) ∧ r ∈ found) ∧
      ∀ (plugins : List Registration) (s : Search), r ∈ plugins →
        ({ s.filter with status := some .active } : Filter).admits r = true →
        r ∈ (search plugins { s with query := q, offset := 0, limit := plugins.length }).plugins) ∧
    (∀ k, k ≠ "" → 'Σ' ∉ k.toList →
      (k.toList <:+: r.name.toList → ∃ d t, relevance r [k] [] = keywordWeight true d t) ∧
      (k.toList <:+: r.description.toList → ∃ n t, relevance r [k] [] = keywordWeight n true t) ∧
      ((∃ t ∈ r.tags, k.toList <:+: t.toList) → ∃ n d, relevance r [k] [] = keywordWeight n d true)) ∧
    relevance r [""] [] = leastRelevance := by
  refine ⟨fun q hq hm => ?_, fun k hk hσ => ?_, relevance_empty_keyword r⟩
  · have hmatch := matchesText_of_mentions hq hm
    refine ⟨hmatch, fun m env f hc hr ha => ?_, fun fs env rs f hh hc hls hr ha => ?_,
      fun plugins s hr ha => mem_search_of_matches { s with query := q } hr ha hmatch⟩
    · refine ⟨_, ?_, Filter.mem_select_search f hr ha hmatch⟩
      rw [MemoryStore.exec_search, hc, if_neg Bool.false_ne_true]
    · exact ⟨_, FileStore.exec_search hh hc hls q _, Filter.mem_select_search f hr ha hmatch⟩
  · -- each field the keyword occurs in passes its test, which fixes that field's weight
    have hfield : ∀ {s : String}, k.toList <:+: s.toList →
        Text.contains (Text.lower s) (Text.lower k) = true :=
      Text.contains_lower_of_isInfix hσ
    refine ⟨fun h => ?_, fun h => ?_, fun ⟨t, ht, h⟩ => ?_⟩
    · rw [relevance_one_keyword hk (by simp [hfield h]), hfield h]
      exact ⟨_, _, rfl⟩
    · rw [relevance_one_keyword hk (by simp [hfield h]), hfield h]
      exact ⟨_, _, rfl⟩
    · have htag : (r.tags.map Text.lower).any (Text.contains · (Text.lower k)) = true :=
        List.any_eq_true.2 ⟨_, List.mem_map_of_mem ht, hfield h⟩
      rw [relevance_one_keyword hk (by simp [htag]), htag]
      exact ⟨_, _, rfl⟩

/-- A formatter is found by a word of its name, given with blanks around it, and scored by it. -/
theorem formatter_found_by_its_name :
    let r := create "fmt" "Json Formatter" "1.0" ⟨0, 0⟩
    'Σ' ∉ (Text.trim " Formatter ").toList ∧ r.Mentions (Text.trim " Formatter ") ∧
      matchesText r " Formatter " = true ∧
      "Formatter" ≠ "" ∧ 'Σ' ∉ "Formatter".toList ∧ "Formatter".toList <:+: r.name.toList ∧
      ∃ d t, relevance r ["Formatter"] [] = keywordWeight true d t := by
  intro r
  have hq : 'Σ' ∉ (Text.trim " Formatter ").toList := by decide +kernel
  have hm : r.Mentions (Text.trim " Formatter ") := by
    have htrim : Text.trim " Formatter " = "Formatter" := by decide +kernel
    rw [htrim]
    exact Or.inr (Or.inl (by decide +kernel))
  have hk : 'Σ' ∉ "Formatter".toList := by decide +kernel
  have hname : "Formatter".toList <:+: r.name.toList := by decide +kernel
  exact ⟨hq, hm, ((verbatim_occurrences_are_found r).1 _ hq hm).1, by decide +kernel, hk, hname,
    ((verbatim_occurrences_are_found r).2.1 "Formatter" (by decide +kernel) hk).1 hname⟩

/-- Two verbatim occurrences that are not found: an empty keyword, which occurs in every name, earns
nothing, and a capital sigma that ends a name lowers there to the final form but alone to the
medial one. -/
theorem final_sigma_and_empty_keyword_missed :
    let r := create "p" "AΣ" "1" ⟨0, 0⟩
    ("".toList <:+: r.name.toList ∧ relevance r [""] [] < nameWeight) ∧
      (Text.trim "Σ" = "Σ" ∧ "Σ".toList <:+: r.name.toList ∧ matchesText r "Σ" = false) := by
  refine ⟨⟨?_, by decide +kernel⟩, by decide +kernel, by decide +kernel, by decide +kernel⟩
  exact List.nil_infix

end Registration

end Plugboard
