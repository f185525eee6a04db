import IncidentTriage.Filter.Sql
import Mathlib.Data.List.Basic
import Mathlib.Tactic.Common

/-!
# Conditions and what they ask for

A condition is a disjunction of conjunctions of comparisons, and a comparison has nothing but two
names of parameters in it. The names are a number behind two letters, so that the text of a condition
is put together from its comparisons in one way only. What it asks for is read off the parameters.
-/

namespace IncidentTriage.Filter

/-- A name under which a text of a filter is bound, and its number. -/
def IsNumbered (name : String) (i : Nat) : Prop :=
  name = "fk" ++ toString i ∨ name = "fv" ++ toString i

/-- The names under which the key and the value of a term are bound. -/
structure Comparison where
  key : String
  value : String

namespace Comparison

def text (c : Comparison) : String :=
  "Metadata[\x7b" ++ c.key ++ ":String\x7d] = \x7b" ++ c.value ++ ":String\x7d"

/-- The term that is asked for when the parameters stand for the names. -/
def term? (params : Parameters) (c : Comparison) : Option Term :=
  match Fields.get? params c.key, Fields.get? params c.value with
  | some (.text key), some (.text value) => some ⟨key, value⟩
  | _, _ => none

def HasNumbers (c : Comparison) : Prop :=
  (∃ i, IsNumbered c.key i) ∧ ∃ i, IsNumbered c.value i

end Comparison

def bracketed (separator : String) (parts : List String) : String :=
  "(" ++ separator.intercalate parts ++ ")"

def conditionText (groups : List (List Comparison)) : String :=
  bracketed " OR " (groups.map fun g => bracketed " AND " (g.map Comparison.text))

/-- The text is a condition that asks, with these parameters, for the groups. -/
def Asks (params : Parameters) (sql : String) (groups : List Group) : Prop :=
  ∃ comparisons : List (List Comparison), (∀ g ∈ comparisons, ∀ c ∈ g, c.HasNumbers) ∧
    sql = conditionText comparisons ∧
    comparisons.map (·.map (·.term? params)) = groups.map (·.map some)

section Numbers

variable {name : String} {i j : Nat}

lemma numbered_inj {stem : String} (h : stem ++ toString i = stem ++ toString j) : i = j := by
  have hlist := congrArg String.toList h
  rw [String.toList_append, String.toList_append] at hlist
  have hdigits : Nat.toDigits 10 i = Nat.toDigits 10 j := by
    simpa only [Nat.toString_eq_repr, Nat.toList_repr] using List.append_cancel_left hlist
  rw [← Nat.ofDigitChars_ten_toDigits (n := i), hdigits, Nat.ofDigitChars_ten_toDigits]

lemma fk_ne_fv (i j : Nat) : "fk" ++ toString i ≠ "fv" ++ toString j := by
  intro h
  have hlist := congrArg String.toList h
  rw [String.toList_append, String.toList_append] at hlist
  have htwo := congrArg (List.take 2) hlist
  exact absurd htwo (by simp)

lemma IsNumbered.unique (hi : IsNumbered name i) (hj : IsNumbered name j) : i = j := by
  rcases hi with rfl | rfl
  · rcases hj with h | h
    · exact numbered_inj h
    · exact absurd h (fk_ne_fv i j)
  · rcases hj with h | h
    · exact absurd h.symm (fk_ne_fv j i)
    · exact numbered_inj h

lemma IsNumbered.colon_notMem (h : IsNumbered name i) : ':' ∉ name.toList := by
  have hdigits : ':' ∉ (toString i).toList := by
    intro hmem
    rw [Nat.toString_eq_repr, Nat.toList_repr] at hmem
    exact absurd (Nat.isDigit_of_mem_toDigits (by decide) (by decide) hmem) (by decide)
  rcases h with rfl | rfl
  · rw [String.toList_append, List.mem_append]
    exact not_or.2 ⟨by decide, hdigits⟩
  · rw [String.toList_append, List.mem_append]
    exact not_or.2 ⟨by decide, hdigits⟩

end Numbers

lemma eq_of_append_cons {c : Char} {xs ys rest other : List Char} (hx : c ∉ xs) (hy : c ∉ ys)
    (h : xs ++ c :: rest = ys ++ c :: other) : xs = ys ∧ rest = other := by
  rcases List.append_eq_append_iff.1 h with ⟨between, hys, hrest⟩ | ⟨between, hxs, hrest⟩
  · cases between with
    | nil => simp_all
    | cons d between =>
      have hd : c = d := (List.cons.inj hrest).1
      exact absurd (by simp [hys, hd]) hy
  · cases between with
    | nil => simp_all
    | cons d between =>
      have hd : c = d := (List.cons.inj hrest).1
      exact absurd (by simp [hxs, hd]) hx

/-- The text of an item shows where it ends, whatever follows it. -/
def SelfDelimiting {α : Type} (P : α → Prop) (write : α → String) : Prop :=
  ∀ (a b : α) (rest other : List Char), P a → P b →
    (write a).toList ++ rest = (write b).toList ++ other → a = b ∧ rest = other

/-- What is written is no closing bracket. -/
def Opens {α : Type} (write : α → String) : Prop :=
  ∀ a, ∃ c cs, (write a).toList = c :: cs ∧ c ≠ ')'

lemma text_selfDelimiting : SelfDelimiting Comparison.HasNumbers Comparison.text := by
  intro a b rest other ha hb h
  obtain ⟨⟨i, hi⟩, ⟨j, hj⟩⟩ := ha
  obtain ⟨⟨k, hk⟩, ⟨l, hl⟩⟩ := hb
  have hsplit : ∀ (c : Comparison) (rest : List Char), c.text.toList ++ rest =
      "Metadata[\x7b".toList ++ (c.key.toList ++ ':' :: ("String\x7d] = \x7b".toList ++
        (c.value.toList ++ ':' :: ("String\x7d".toList ++ rest)))) := by
    intro c rest
    simp [Comparison.text]
  rw [hsplit, hsplit] at h
  obtain ⟨hkey, hafter⟩ := eq_of_append_cons hi.colon_notMem hk.colon_notMem
    (List.append_cancel_left h)
  obtain ⟨hvalue, hend⟩ := eq_of_append_cons hj.colon_notMem hl.colon_notMem
    (List.append_cancel_left hafter)
  have hab : a = b := by
    cases a
    cases b
    exact congrArg₂ Comparison.mk (String.toList_inj.1 hkey) (String.toList_inj.1 hvalue)
  exact ⟨hab, List.append_cancel_left hend⟩

lemma text_opens : Opens Comparison.text := by
  intro c
  have h : c.text.toList = 'M' :: ("etadata[\x7b" ++ c.key ++ ":String\x7d] = \x7b" ++ c.value ++
      ":String\x7d").toList := by
    simp [Comparison.text]
  exact ⟨'M', _, h, by decide⟩

lemma bracketed_opens {α : Type} (separator : String) (write : α → String) :
    Opens fun as : List α => bracketed separator (as.map write) := by
  intro as
  have h : (bracketed separator (as.map write)).toList =
      '(' :: (separator.intercalate (as.map write) ++ ")").toList := by
    simp [bracketed]
  exact ⟨'(', _, h, by decide⟩

section Brackets

variable {α : Type} {P : α → Prop} {write : α → String} {separator : String}

/-- Where items are put side by side up to a closing bracket, the first one is followed by the
separator or by the bracket. -/
lemma joined_cons (separator : String) (a : α) (as : List α) (rest : List Char) :
    (separator.intercalate ((a :: as).map write)).toList ++ ')' :: rest =
      (write a).toList ++ match as with
        | [] => ')' :: rest
        | _ :: _ => separator.toList ++
          ((separator.intercalate (as.map write)).toList ++ ')' :: rest) := by
  cases as with
  | nil => simp
  | cons b as =>
    rw [List.map_cons, List.map_cons, String.intercalate_cons_cons]
    simp

lemma joined_unique (hwrite : SelfDelimiting P write) (hopens : Opens write)
    (hseparator : separator.toList.head? = some ' ') {as bs : List α} {rest other : List Char}
    (has : ∀ a ∈ as, P a) (hbs : ∀ b ∈ bs, P b)
    (h : (separator.intercalate (as.map write)).toList ++ ')' :: rest =
      (separator.intercalate (bs.map write)).toList ++ ')' :: other) :
    as = bs ∧ rest = other := by
  obtain ⟨spaces, hspaces⟩ := List.head?_eq_some_iff.1 hseparator
  induction as generalizing bs with
  | nil =>
    cases bs with
    | nil => simpa using h
    | cons b bs =>
      obtain ⟨c, cs, hc, hne⟩ := hopens b
      rw [joined_cons, hc] at h
      simp only [List.map_nil, String.intercalate_nil, String.toList_empty, List.nil_append,
        List.cons_append, List.cons.injEq] at h
      exact absurd h.1.symm hne
  | cons a as ih =>
    cases bs with
    | nil =>
      obtain ⟨c, cs, hc, hne⟩ := hopens a
      rw [joined_cons, hc] at h
      simp only [List.map_nil, String.intercalate_nil, String.toList_empty, List.nil_append,
        List.cons_append, List.cons.injEq] at h
      exact absurd h.1 hne
    | cons b bs =>
      rw [joined_cons, joined_cons] at h
      obtain ⟨rfl, hafter⟩ := hwrite a b _ _ (has a List.mem_cons_self)
        (hbs b List.mem_cons_self) h
      have hrest : as = bs ∧ rest = other := by
        cases as with
        | nil =>
          cases bs with
          | nil => simpa using hafter
          | cons => simp [hspaces] at hafter
        | cons =>
          cases bs with
          | nil => simp [hspaces] at hafter
          | cons =>
            exact ih (fun c hc => has c (List.mem_cons_of_mem a hc))
              (fun c hc => hbs c (List.mem_cons_of_mem a hc)) (List.append_cancel_left hafter)
      exact ⟨congrArg (a :: ·) hrest.1, hrest.2⟩

lemma SelfDelimiting.bracketed (hwrite : SelfDelimiting P write) (hopens : Opens write)
    (hseparator : separator.toList.head? = some ' ') :
    SelfDelimiting (fun as : List α => ∀ a ∈ as, P a)
      fun as => Filter.bracketed separator (as.map write) := by
  intro as bs rest other has hbs h
  have hsplit : ∀ (as : List α) (rest : List Char),
      (Filter.bracketed separator (as.map write)).toList ++ rest =
        '(' :: ((separator.intercalate (as.map write)).toList ++ ')' :: rest) := by
    intro as rest
    simp [Filter.bracketed]
  rw [hsplit, hsplit] at h
  exact joined_unique hwrite hopens hseparator has hbs (List.cons.inj h).2

end Brackets

lemma conditionText_inj {groups others : List (List Comparison)}
    (hgroups : ∀ g ∈ groups, ∀ c ∈ g, c.HasNumbers) (hothers : ∀ g ∈ others, ∀ c ∈ g, c.HasNumbers)
    (h : conditionText groups = conditionText others) : groups = others := by
  have hgroup := text_selfDelimiting.bracketed text_opens (show " AND ".toList.head? = _ by decide)
  have hcondition := hgroup.bracketed (bracketed_opens _ _) (show " OR ".toList.head? = _ by decide)
  have hlists := congrArg (String.toList · ++ []) h
  exact (hcondition groups others [] [] hgroups hothers hlists).1

/-- A condition asks for one list of groups. -/
lemma Asks.unique {params : Parameters} {sql : String} {groups others : List Group}
    (h : Asks params sql groups) (hothers : Asks params sql others) : groups = others := by
  obtain ⟨comparisons, hnumbers, hsql, hterms⟩ := h
  obtain ⟨comparisons', hnumbers', hsql', hterms'⟩ := hothers
  have hsame := conditionText_inj hnumbers hnumbers' (hsql.symm.trans hsql')
  subst hsame
  have hlists := hterms.symm.trans hterms'
  have hinj : Function.Injective fun g : Group => g.map some :=
    List.map_injective_iff.2 fun _ _ => Option.some.inj
  exact List.map_injective_iff.2 hinj hlists

end IncidentTriage.Filter
