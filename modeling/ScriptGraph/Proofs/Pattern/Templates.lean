import ScriptGraph.Graph.Template

/-!
How templates are read.

Every text is taken apart in exactly one way into tokens, the texts before them and what comes after the last: a text
before a token has no opening brace, a token has no closing one, and behind no opening brace of the rest is a closing
one. Braces may be nested, unbalanced, empty or repeated. The scan for tokens follows this decomposition, and the
names of a template are its tokens, each at its first occurrence.
-/

namespace ScriptGraph

namespace Template

section Split

variable {stop : Char} {cs before after text : List Char}

theorem splitAt?_append (without : stop ∉ text) (rest : List Char) :
    splitAt? stop (text ++ rest) =
      (splitAt? stop rest).map fun ends => (text ++ ends.1, ends.2) := by
  induction text with
  | nil => simp
  | cons c text ih =>
    obtain ⟨other, later⟩ := not_or.1 (mt List.mem_cons.2 without)
    rw [List.cons_append, splitAt?, if_neg (Ne.symm other), ih later]
    cases splitAt? stop rest <;> rfl

/-- A split is at the first stop. -/
theorem splitAt?_eq_some_iff : splitAt? stop cs = some (before, after) ↔ stop ∉ before ∧ cs = before ++ stop :: after := by
  constructor
  · intro split
    induction cs generalizing before with
    | nil => cases split
    | cons c cs ih =>
      rw [splitAt?] at split
      by_cases here : c = stop
      · rw [if_pos here, Option.some.injEq, Prod.mk.injEq] at split
        obtain ⟨rfl, rfl⟩ := split
        exact ⟨List.not_mem_nil, by rw [here, List.nil_append]⟩
      · rw [if_neg here] at split
        obtain ⟨⟨first, last⟩, found, same⟩ := Option.map_eq_some_iff.1 split
        obtain ⟨rfl, rfl⟩ := Prod.mk.inj same
        obtain ⟨without, rfl⟩ := ih found
        exact ⟨by simpa [Ne.symm here] using without, rfl⟩
  · rintro ⟨without, rfl⟩
    rw [splitAt?_append without, splitAt?, if_pos rfl]
    simp

theorem splitAt?_eq_none_iff : splitAt? stop cs = none ↔ stop ∉ cs := by
  constructor
  · intro none member
    obtain ⟨before, after, rfl, without⟩ := List.eq_append_cons_of_mem member
    cases none.symm.trans (splitAt?_eq_some_iff.2 ⟨without, rfl⟩)
  · intro without
    rw [← List.append_nil cs, splitAt?_append without]
    rfl

end Split

section Tokens

variable {cs before after token rest text : List Char}

theorem tokens_cons (opened : splitAt? '\x7b' cs = some (before, after))
    (closed : splitAt? '\x7d' after = some (token, rest)) : tokens cs = token :: tokens rest := by
  rw [tokens]
  split
  · next none => simp [opened] at none
  · next _ after' some =>
    obtain ⟨rfl, rfl⟩ := Prod.mk.inj (Option.some.inj (opened.symm.trans some))
    split
    · next none => simp [closed] at none
    · next _ _ some =>
      obtain ⟨rfl, rfl⟩ := Prod.mk.inj (Option.some.inj (closed.symm.trans some))
      rfl

/-- No closing brace stands behind the first opening one. -/
def Tokenless (cs : List Char) : Prop :=
  ∀ before after, splitAt? '\x7b' cs = some (before, after) → splitAt? '\x7d' after = none

/-- What has a token begins with a text, the token and what is behind it. -/
theorem exists_split_of_not_tokenless (not : ¬ Tokenless cs) : ∃ before after token rest,
    splitAt? '\x7b' cs = some (before, after) ∧ splitAt? '\x7d' after = some (token, rest) := by
  simp only [Tokenless, Classical.not_forall] at not
  obtain ⟨before, after, opened, closed⟩ := not
  obtain ⟨⟨token, rest⟩, closed⟩ := Option.ne_none_iff_exists'.1 closed
  exact ⟨before, after, token, rest, opened, closed⟩

theorem tokenless_append (without : '\x7b' ∉ text) : Tokenless (text ++ rest) ↔ Tokenless rest := by
  rw [Tokenless, Tokenless, splitAt?_append without]
  rcases splitAt? '\x7b' rest with _ | ⟨before, after⟩ <;> simp

theorem tokens_nil (tokenless : Tokenless cs) : tokens cs = [] := by
  rw [tokens.eq_def]
  split
  · rfl
  · next opened =>
    split
    · rfl
    · next closed => cases (tokenless _ _ opened).symm.trans closed

/-- A text without braces has no tokens. -/
theorem tokens_append (without : '\x7b' ∉ text) (rest : List Char) : tokens (text ++ rest) = tokens rest := by
  by_cases tokenless : Tokenless rest
  · rw [tokens_nil tokenless, tokens_nil ((tokenless_append without).2 tokenless)]
  · obtain ⟨before, after, token, behind, opened, closed⟩ := exists_split_of_not_tokenless tokenless
    have shifted : splitAt? '\x7b' (text ++ rest) = some (text ++ before, after) := by
      rw [splitAt?_append without, opened, Option.map_some]
    rw [tokens_cons opened closed, tokens_cons shifted closed]

/-- A token that contains no closing brace. -/
theorem tokens_braced (without : '\x7d' ∉ token) (rest : List Char) :
    tokens ('\x7b' :: (token ++ '\x7d' :: rest)) = token :: tokens rest :=
  tokens_cons (splitAt?_eq_some_iff.2 ⟨List.not_mem_nil, rfl⟩) (splitAt?_eq_some_iff.2 ⟨without, rfl⟩)

end Tokens

section Firsts

variable {name : String} {seen tokens names names' : List String}

theorem mem_firsts_iff : name ∈ firsts seen tokens ↔ name ∈ tokens ∧ name ∉ seen := by
  induction tokens generalizing seen with
  | nil => simp [firsts]
  | cons token tokens ih =>
    rw [firsts]
    by_cases known : token ∈ seen
    · rw [if_pos (List.contains_iff_mem.2 known), ih, List.mem_cons]
      constructor
      · exact fun ⟨member, new⟩ => ⟨.inr member, new⟩
      · rintro ⟨rfl | member, new⟩
        · exact absurd known new
        · exact ⟨member, new⟩
    · rw [if_neg (mt List.contains_iff_mem.1 known), List.mem_cons, ih, List.mem_cons, List.mem_cons, not_or]
      constructor
      · rintro (rfl | ⟨member, _, new⟩)
        · exact ⟨.inl rfl, known⟩
        · exact ⟨.inr member, new⟩
      · rintro ⟨rfl | member, new⟩
        · exact .inl rfl
        · by_cases same : name = token
          · exact .inl same
          · exact .inr ⟨member, same, new⟩

/-- Where nothing is repeated, nothing is left out. -/
theorem firsts_of_nodup (nodup : names.Nodup) (new : ∀ name ∈ names, name ∉ seen) : firsts seen names = names := by
  induction names generalizing seen with
  | nil => rfl
  | cons name names ih =>
    obtain ⟨once, nodup⟩ := List.nodup_cons.1 nodup
    have unseen : ¬ seen.contains name = true := fun known =>
      new name List.mem_cons_self (List.contains_iff_mem.1 known)
    rw [firsts, if_neg unseen, ih nodup fun other member => ?_]
    rw [List.mem_cons, not_or]
    exact ⟨fun same => once (same ▸ member), new other (List.mem_cons_of_mem _ member)⟩

theorem idxOf_cons_of_ne {token : String} (other : name ≠ token) :
    (token :: tokens).idxOf name = tokens.idxOf name + 1 := by
  rw [List.idxOf_cons, beq_eq_false_iff_ne.2 other.symm, cond_false]

/-- What is kept stands in the order of first occurrence, counted before anything is left out. -/
theorem pairwise_firsts (kept : String → Bool) (seen tokens : List String) :
    (firsts seen (tokens.filter kept)).Pairwise fun a b => tokens.idxOf a < tokens.idxOf b := by
  induction tokens generalizing seen with
  | nil => exact .nil
  | cons token tokens ih =>
    -- What does not name the first token stands one place later than among the others.
    have later (seen : List String) (other : ∀ name ∈ firsts seen (tokens.filter kept), name ≠ token) :
        (firsts seen (tokens.filter kept)).Pairwise fun a b => (token :: tokens).idxOf a < (token :: tokens).idxOf b := by
      refine (ih seen).imp_of_mem fun {a b} memberA memberB below => ?_
      rw [idxOf_cons_of_ne (other a memberA), idxOf_cons_of_ne (other b memberB)]
      exact Nat.succ_lt_succ below
    by_cases keeps : kept token = true
    · rw [List.filter_cons_of_pos keeps, firsts]
      by_cases known : seen.contains token = true
      · rw [if_pos known]
        refine later seen fun name member same => (mem_firsts_iff.1 member).2 ?_
        exact same ▸ List.contains_iff_mem.1 known
      · rw [if_neg known]
        have other : ∀ name ∈ firsts (token :: seen) (tokens.filter kept), name ≠ token := fun name member same =>
          (mem_firsts_iff.1 member).2 (same ▸ List.mem_cons_self)
        refine .cons (fun name member => ?_) (later _ other)
        rw [List.idxOf_cons_self, idxOf_cons_of_ne (other name member)]
        exact Nat.succ_pos _
    · rw [List.filter_cons_of_neg keeps]
      refine later seen fun name member same => keeps ?_
      exact same ▸ (List.mem_filter.1 (mem_firsts_iff.1 member).1).2

/-- The names are the tokens that are not empty, without repetition and in the order of first occurrence. -/
structure FirstOccurrences (tokens names : List String) : Prop where
  members : ∀ name, name ∈ names ↔ name ∈ tokens ∧ name ≠ ""
  nodup : names.Nodup
  ordered : names.Pairwise fun a b => tokens.idxOf a < tokens.idxOf b

theorem FirstOccurrences.unique (first : FirstOccurrences tokens names) (second : FirstOccurrences tokens names') :
    names = names' := by
  have same : names.Perm names' := (List.perm_ext_iff_of_nodup first.nodup second.nodup).2 fun name =>
    (first.members name).trans (second.members name).symm
  exact same.eq_of_pairwise (fun a b _ _ below above => absurd below (Nat.lt_asymm above)) first.ordered second.ordered

theorem firstOccurrences_firsts (tokens : List String) : FirstOccurrences tokens (firsts [] (tokens.filter (· ≠ ""))) where
  members name := by simp [mem_firsts_iff]
  nodup := (pairwise_firsts (· ≠ "") [] tokens).imp fun {a b} (below : tokens.idxOf a < tokens.idxOf b) =>
    fun same => Nat.ne_of_lt below (congrArg tokens.idxOf same)
  ordered := pairwise_firsts (· ≠ "") [] tokens

end Firsts

/-- A text in parts: tokens, each with the text before it, and what comes after the last. -/
structure Decomposition where
  segments : List (List Char × List Char)
  rest : List Char

namespace Decomposition

/-- The text of segments, with each token between braces, and of a rest. -/
def spell : List (List Char × List Char) → List Char → List Char
  | [], rest => rest
  | (text, token) :: segments, rest => text ++ '\x7b' :: (token ++ '\x7d' :: spell segments rest)

/-- The tokens, from left to right. -/
def tokens (d : Decomposition) : List (List Char) := d.segments.map (·.2)

/-- A text is taken apart so. -/
structure Spells (d : Decomposition) (cs : List Char) : Prop where
  spelled : spell d.segments d.rest = cs
  texts : ∀ segment ∈ d.segments, '\x7b' ∉ segment.1
  tokens : ∀ segment ∈ d.segments, '\x7d' ∉ segment.2
  rest : ∀ before after, d.rest = before ++ '\x7b' :: after → '\x7d' ∉ after

/-- Behind no opening brace is a closing one, if there is none behind the first. -/
theorem tokenless_iff {cs : List Char} :
    Tokenless cs ↔ ∀ before after, cs = before ++ '\x7b' :: after → '\x7d' ∉ after := by
  constructor
  · rintro tokenless before after rfl closed
    by_cases earlier : '\x7b' ∈ before
    · obtain ⟨first, between, rfl, without⟩ := List.eq_append_cons_of_mem earlier
      have opened : splitAt? '\x7b' (first ++ '\x7b' :: between ++ '\x7b' :: after) =
          some (first, between ++ '\x7b' :: after) := splitAt?_eq_some_iff.2 ⟨without, by simp⟩
      exact splitAt?_eq_none_iff.1 (tokenless _ _ opened) (by simp [closed])
    · exact splitAt?_eq_none_iff.1 (tokenless _ _ (splitAt?_eq_some_iff.2 ⟨earlier, rfl⟩)) closed
  · intro unclosed before after opened
    exact splitAt?_eq_none_iff.2 (unclosed before after (splitAt?_eq_some_iff.1 opened).2)

theorem spells_nil_iff {rest cs : List Char} : Spells ⟨[], rest⟩ cs ↔ rest = cs ∧ Tokenless cs := by
  rw [tokenless_iff]
  constructor
  · rintro ⟨rfl, _, _, unclosed⟩
    exact ⟨rfl, unclosed⟩
  · rintro ⟨rfl, unclosed⟩
    exact ⟨rfl, by simp, by simp, unclosed⟩

theorem spells_cons_iff {text token rest cs : List Char} {segments : List (List Char × List Char)} :
    Spells ⟨(text, token) :: segments, rest⟩ cs ↔ ∃ after behind, splitAt? '\x7b' cs = some (text, after) ∧
      splitAt? '\x7d' after = some (token, behind) ∧ Spells ⟨segments, rest⟩ behind := by
  constructor
  · rintro ⟨rfl, texts, tokens, unclosed⟩
    rw [List.forall_mem_cons] at texts tokens
    exact ⟨_, _, splitAt?_eq_some_iff.2 ⟨texts.1, rfl⟩, splitAt?_eq_some_iff.2 ⟨tokens.1, rfl⟩,
      rfl, texts.2, tokens.2, unclosed⟩
  · rintro ⟨after, behind, opened, closed, rfl, texts, tokens, unclosed⟩
    obtain ⟨unopened, rfl⟩ := splitAt?_eq_some_iff.1 opened
    obtain ⟨inside, rfl⟩ := splitAt?_eq_some_iff.1 closed
    exact ⟨rfl, List.forall_mem_cons.2 ⟨unopened, texts⟩, List.forall_mem_cons.2 ⟨inside, tokens⟩, unclosed⟩

/-- A text without a token is its own rest. -/
theorem spells_iff_of_tokenless {cs : List Char} (d : Decomposition) (tokenless : Tokenless cs) :
    d.Spells cs ↔ d = ⟨[], cs⟩ := by
  obtain ⟨_ | ⟨⟨text, token⟩, segments⟩, rest⟩ := d
  · rw [spells_nil_iff, Decomposition.mk.injEq]
    exact ⟨fun spells => ⟨rfl, spells.1⟩, fun same => ⟨same.2, tokenless⟩⟩
  · rw [spells_cons_iff]
    constructor
    · rintro ⟨after, behind, opened, closed, _⟩
      cases (tokenless _ _ opened).symm.trans closed
    · intro same
      cases congrArg Decomposition.segments same

/-- A text with a token is what comes before the first one, the token and what comes behind it, taken apart. -/
theorem spells_iff_of_split {cs text after token behind : List Char} (d : Decomposition)
    (opened : splitAt? '\x7b' cs = some (text, after)) (closed : splitAt? '\x7d' after = some (token, behind)) :
    d.Spells cs ↔ ∃ inner : Decomposition, inner.Spells behind ∧ d = ⟨(text, token) :: inner.segments, inner.rest⟩ := by
  obtain ⟨_ | ⟨⟨text', token'⟩, segments⟩, rest⟩ := d
  · rw [spells_nil_iff]
    constructor
    · rintro ⟨_, tokenless⟩
      cases (tokenless _ _ opened).symm.trans closed
    · rintro ⟨inner, _, same⟩
      cases congrArg Decomposition.segments same
  · rw [spells_cons_iff]
    constructor
    · rintro ⟨after', behind', opened', closed', spells⟩
      obtain ⟨rfl, rfl⟩ := Prod.mk.inj (Option.some.inj (opened.symm.trans opened'))
      obtain ⟨rfl, rfl⟩ := Prod.mk.inj (Option.some.inj (closed.symm.trans closed'))
      exact ⟨⟨segments, rest⟩, spells, rfl⟩
    · rintro ⟨inner, spells, same⟩
      cases same
      exact ⟨after, behind, opened, closed, spells⟩

/-- There is one way to take a text apart, and the scan for tokens follows it. -/
theorem exists_spells (cs : List Char) :
    ∃ d : Decomposition, (∀ d' : Decomposition, d'.Spells cs ↔ d' = d) ∧ d.tokens = Template.tokens cs := by
  induction length : cs.length using Nat.strongRecOn generalizing cs with
  | ind n ih =>
    by_cases tokenless : Tokenless cs
    · exact ⟨⟨[], cs⟩, fun d => spells_iff_of_tokenless d tokenless, (tokens_nil tokenless).symm⟩
    obtain ⟨text, after, token, behind, opened, closed⟩ := exists_split_of_not_tokenless tokenless
    have first := length_of_splitAt? opened
    have second := length_of_splitAt? closed
    obtain ⟨inner, only, follows⟩ := ih behind.length (by omega) behind rfl
    refine ⟨⟨(text, token) :: inner.segments, inner.rest⟩, fun d => ?_, ?_⟩
    · rw [spells_iff_of_split d opened closed]
      constructor
      · rintro ⟨other, spells, rfl⟩
        rw [(only other).1 spells]
      · exact fun same => ⟨inner, (only inner).2 rfl, same⟩
    · rw [tokens_cons opened closed, ← follows]
      rfl

end Decomposition

/-- Every text is taken apart in one way, and the names of a template are its tokens: those that are not empty, in the
order of first occurrence and without repetition. -/
theorem names_firstOccurrences (template : String) :
    ∃ d : Decomposition, (∀ d' : Decomposition, d'.Spells template.toList ↔ d' = d) ∧
      ∀ found : List String, FirstOccurrences (d.tokens.map String.ofList) found ↔ found = names template := by
  obtain ⟨d, only, follows⟩ := Decomposition.exists_spells template.toList
  have firsts := firstOccurrences_firsts (d.tokens.map String.ofList)
  rw [follows] at firsts
  refine ⟨d, only, fun found => ⟨fun other => ?_, ?_⟩⟩
  · rw [follows] at other
    exact other.unique firsts
  · rintro rfl
    rw [follows]
    exact firsts

/-- A token runs to the next closing brace, whatever opens in between; empty ones and repetitions are left out. -/
example : names "\x7da\x7bb\x7d\x7b\x7d\x7bc\x7bd\x7de\x7d\x7bb\x7d\x7bf" = ["b", "c\x7bd"] := by decide +kernel

end Template

end ScriptGraph
