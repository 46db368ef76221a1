import Mathlib.Data.List.Basic
import Mathlib.Data.List.Induction
import Mathlib.Data.String.Basic
import Mathlib.Tactic.Common

/-!
# Conditions in SQL

A `WHERE` condition as a text: columns and string literals compared with `=`, joined by `and` and
`or`. Anything else that SQL knows is not read. In a literal a quote is written twice. A server may
also take a backslash as an escape; then it and the next character stand for one character, but for
`\%` and `\_`, which stand for themselves.

A text between two quotes is read as itself exactly when it is `Plain` (`literal_self`), and so a
conjunction whose values are put between quotes is read as this conjunction exactly when all of them
are (`read_conjunction`).
-/

namespace Pledge.Text.Sql

/-! ## Literals

`literal` reads from behind the opening quote, two characters at a time, since a quote or a
backslash cannot be told apart from the end without the next one. `Special` is the characters that
may need it. -/

/-- The single quote. -/
def quote : Char := '\x27'

/-- What a backslash and the next character stand for. -/
def unescape (c : Char) : List Char :=
  if c = '%' ∨ c = '_' then ['\\', c]
  else if c = '0' then ['\x00']
  else if c = 'b' then ['\x08']
  else if c = 'n' then ['\n']
  else if c = 'r' then ['\r']
  else if c = 't' then ['\t']
  else if c = 'Z' then ['\x1a']
  else [c]

/-- More of the value, before what was read. -/
def push (cs : List Char) (r : Option (List Char × List Char)) : Option (List Char × List Char) :=
  r.map fun r => (cs ++ r.1, r.2)

/-- The value of a literal after its opening quote, and what follows the closing one. -/
def literal (backslash : Bool) : List Char → Option (List Char × List Char)
  | [] => none
  | [c] => if c = quote then some ([], []) else none
  | c :: d :: rest =>
      if c = quote then
        if d = quote then push [quote] (literal backslash rest) else some ([], d :: rest)
      else if backslash = true ∧ c = '\\' then push (unescape d) (literal backslash rest)
      else push [c] (literal backslash (d :: rest))

/-- A character that may not stand for itself. -/
def Special (backslash : Bool) (c : Char) : Prop := c = quote ∨ (backslash = true ∧ c = '\\')

/-- A text without quotes, and where a backslash is an escape, with `%` or `_` after each of them. -/
structure Plain (backslash : Bool) (text : List Char) : Prop where
  quotes : quote ∉ text
  escapes : backslash = true → ∀ pre post, text = pre ++ '\\' :: post →
    ∃ d rest, post = d :: rest ∧ (d = '%' ∨ d = '_')

section Literal

variable {backslash : Bool} {c d : Char} {text tail rest value : List Char}

theorem push_eq_some {cs : List Char} {r : Option (List Char × List Char)} :
    push cs r = some (value, rest) ↔ ∃ v, r = some (v, rest) ∧ value = cs ++ v := by
  rw [push, Option.map_eq_some_iff]
  constructor
  · rintro ⟨⟨v, rest'⟩, hr, hv⟩
    simp only [Prod.mk.injEq] at hv
    exact ⟨v, hv.2 ▸ hr, hv.1.symm⟩
  · rintro ⟨v, hr, rfl⟩
    exact ⟨(v, rest), hr, rfl⟩

/-- A quote closes the literal, unless another follows. -/
theorem literal_end (h : tail.head? ≠ some quote) :
    literal backslash (quote :: tail) = some ([], tail) := by
  cases tail with
  | nil => simp [literal]
  | cons d tail => simp_all [literal]

/-- Two quotes are one. -/
theorem literal_quotes (rest : List Char) :
    literal backslash (quote :: quote :: rest) = push [quote] (literal backslash rest) := by
  simp [literal]

/-- A backslash and the next character. -/
theorem literal_escape (d : Char) (rest : List Char) :
    literal true ('\\' :: d :: rest) = push (unescape d) (literal true rest) := by
  simp [literal, quote]

/-- Any other character stands for itself. -/
theorem literal_other (h : ¬ Special backslash c) (rest : List Char) :
    literal backslash (c :: rest) = push [c] (literal backslash rest) := by
  rw [Special, not_or] at h
  cases rest with
  | nil => simp [literal, h.1, push]
  | cons d rest => simp only [literal, if_neg h.1, if_neg h.2]

/-- A character after a backslash stands for one character, which is special only if the character is
it, or for itself with the backslash. -/
theorem unescape_cases (backslash : Bool) (d : Char) :
    ((d = '%' ∨ d = '_') ∧ unescape d = ['\\', d]) ∨
      (¬ (d = '%' ∨ d = '_') ∧ ∃ e, unescape d = [e] ∧ (Special backslash e → d = e)) := by
  unfold unescape
  split
  · next h => exact .inl ⟨h, rfl⟩
  · next h =>
      right
      refine ⟨h, ?_⟩
      repeat' split
      all_goals exact ⟨_, rfl, by simp [Special, quote]⟩

/-- What may follow a backslash in a plain text is not special. -/
theorem special_ne (h : Special backslash c) (hd : d = '%' ∨ d = '_') : c ≠ d := by
  rcases h with rfl | ⟨-, rfl⟩ <;> rcases hd with rfl | rfl <;> decide

/-- A special character and the next one: the literal ends there, or they stand for one character,
which is special only if the next one is it. Only an escaped `%` or `_` stands for the two of them. -/
theorem literal_special (hc : Special backslash c) (d : Char) (rest : List Char) :
    (c ≠ quote ∧ (d = '%' ∨ d = '_') ∧
        literal backslash (c :: d :: rest) = push [c, d] (literal backslash rest)) ∨
      ((c = quote ∨ ¬ (d = '%' ∨ d = '_')) ∧
        (literal backslash (c :: d :: rest) = some ([], d :: rest) ∨
          ∃ e, literal backslash (c :: d :: rest) = push [e] (literal backslash rest) ∧
            (Special backslash e → d = e))) := by
  rcases hc with rfl | ⟨rfl, rfl⟩
  · right
    refine ⟨.inl rfl, ?_⟩
    by_cases hd : d = quote
    · subst hd
      exact .inr ⟨quote, literal_quotes rest, fun _ => rfl⟩
    · left
      apply literal_end
      simpa using hd
  · rw [literal_escape]
    rcases unescape_cases true d with ⟨hd, h⟩ | ⟨hd, e, h, he⟩
    · exact .inl ⟨by decide, hd, by rw [h]⟩
    · exact .inr ⟨.inr hd, .inr ⟨e, by rw [h], he⟩⟩

/-! ### Plain texts -/

theorem plain_nil : Plain backslash [] := by
  constructor <;> simp

theorem plain_other (hc : ¬ Special backslash c) :
    Plain backslash (c :: text) ↔ Plain backslash text := by
  rw [Special, not_or, not_and] at hc
  constructor
  · intro h
    refine ⟨fun hmem => h.quotes (List.mem_cons_of_mem c hmem), ?_⟩
    intro hb pre post htext
    exact h.escapes hb (c :: pre) post (by rw [htext, List.cons_append])
  · intro h
    refine ⟨?_, ?_⟩
    · rw [List.mem_cons, not_or]
      exact ⟨Ne.symm hc.1, h.quotes⟩
    · intro hb pre post htext
      cases pre with
      | nil => exact absurd (List.cons.inj htext).1 (hc.2 hb)
      | cons p pre => exact h.escapes hb pre post (List.cons.inj htext).2

theorem plain_escape (hd : d = '%' ∨ d = '_') :
    Plain backslash ('\\' :: d :: text) ↔ Plain backslash text := by
  have htext : Plain backslash (d :: text) ↔ Plain backslash text :=
    plain_other fun h => special_ne h hd rfl
  rw [← htext]
  constructor
  · intro h
    refine ⟨fun hmem => h.quotes (List.mem_cons_of_mem _ hmem), ?_⟩
    intro hb pre post htext
    exact h.escapes hb ('\\' :: pre) post (by rw [htext, List.cons_append])
  · intro h
    refine ⟨?_, ?_⟩
    · rw [List.mem_cons, not_or]
      exact ⟨by decide, h.quotes⟩
    · intro hb pre post htext
      cases pre with
      | nil => exact ⟨d, text, (List.cons.inj htext).2.symm, hd⟩
      | cons p pre => exact h.escapes hb pre post (List.cons.inj htext).2

theorem not_plain_end (hc : Special backslash c) : ¬ Plain backslash [c] := by
  intro h
  rcases hc with rfl | ⟨hb, rfl⟩
  · exact h.quotes List.mem_cons_self
  · obtain ⟨d, rest, hpost, -⟩ := h.escapes hb [] [] rfl
    simp at hpost

theorem not_plain (hc : Special backslash c) (hd : c = quote ∨ ¬ (d = '%' ∨ d = '_')) :
    ¬ Plain backslash (c :: d :: text) := by
  intro h
  rcases hc with rfl | ⟨hb, rfl⟩
  · exact h.quotes List.mem_cons_self
  · obtain ⟨e, rest, hpost, he⟩ := h.escapes hb [] (d :: text) rfl
    obtain ⟨rfl, -⟩ := List.cons.inj hpost
    exact hd.elim (by decide) (fun hd => hd he)

/-! ### Between quotes -/

/-- What comes after a literal does not go on with it. -/
def Ends (backslash : Bool) (tail : List Char) : Prop :=
  ∀ c rest, tail = c :: rest → ¬ Special backslash c

theorem Ends.literal_end (h : Ends backslash tail) :
    literal backslash (quote :: tail) = some ([], tail) := by
  apply Sql.literal_end
  intro hhead
  obtain ⟨rest, rfl⟩ := List.head?_eq_some_iff.mp hhead
  exact h quote rest rfl (.inl rfl)

/-- Read as the value of a literal, it gives a character that is not special at first. -/
theorem Ends.first (h : Ends backslash tail) (hread : literal backslash tail = some (value, rest)) :
    ∃ c v, value = c :: v ∧ ¬ Special backslash c := by
  cases tail with
  | nil => simp [literal] at hread
  | cons c tail =>
      have hc : ¬ Special backslash c := h c tail rfl
      rw [literal_other hc, push_eq_some] at hread
      obtain ⟨v, -, hvalue⟩ := hread
      exact ⟨c, v, hvalue, hc⟩

/-- A special character before the closing quote may take it for itself. Then the value goes on with
the tail. -/
theorem Ends.past (h : Ends backslash tail) (hc : Special backslash c)
    (hread : literal backslash (c :: quote :: tail) = some (value, rest)) :
    value = [] ∨ ∃ e f v, value = e :: f :: v ∧ ¬ Special backslash f := by
  rcases literal_special hc quote tail with ⟨-, hd, -⟩ | ⟨-, hend | ⟨e, hthis, -⟩⟩
  · exact absurd hd (by decide)
  · rw [hend] at hread
    exact .inl (Prod.mk.inj (Option.some.inj hread)).1.symm
  · rw [hthis, push_eq_some] at hread
    obtain ⟨v, hv, rfl⟩ := hread
    obtain ⟨f, v, rfl, hf⟩ := h.first hv
    exact .inr ⟨e, f, v, rfl, hf⟩

theorem special_first {lag : List Char} (hne : lag ≠ []) (hlag : ∀ c ∈ lag, Special backslash c)
    (h : lag ++ text = c :: value) : Special backslash c := by
  obtain ⟨l, ls, rfl⟩ := List.exists_cons_of_ne_nil hne
  rw [List.cons_append, List.cons.injEq] at h
  exact h.1 ▸ hlag l List.mem_cons_self

/-- A literal that has lagged behind by special characters does not catch up: they would have to be
the next ones of its value. -/
theorem literal_lag (htail : Ends backslash tail) {lag : List Char} (hne : lag ≠ [])
    (hlag : ∀ c ∈ lag, Special backslash c) :
    literal backslash (text ++ quote :: tail) ≠ some (lag ++ text, rest) := by
  induction text using List.twoStepInduction generalizing lag with
  | nil =>
      rw [List.nil_append, htail.literal_end, List.append_nil]
      intro h
      exact hne (Prod.mk.inj (Option.some.inj h)).1.symm
  | singleton c =>
      by_cases hc : Special backslash c
      · intro h
        have hall : ∀ x ∈ lag ++ [c], Special backslash x :=
          List.forall_mem_append.mpr ⟨hlag, List.forall_mem_singleton.mpr hc⟩
        rcases htail.past hc h with hvalue | ⟨e, f, v, hvalue, hf⟩
        · simp at hvalue
        · exact hf (hall f (by simp [hvalue]))
      · rw [List.cons_append, literal_other hc, Ne, push_eq_some]
        rintro ⟨v, -, hvalue⟩
        exact hc (special_first hne hlag hvalue)
  | cons_cons c d text ih =>
      rw [List.cons_append, List.cons_append]
      by_cases hc : Special backslash c
      · rcases literal_special hc d (text ++ quote :: tail) with
          ⟨-, hd, hread⟩ | ⟨-, hend | ⟨e, hread, he⟩⟩
        · -- the second character would be a special one
          rw [hread, Ne, push_eq_some]
          rintro ⟨v, -, hvalue⟩
          obtain ⟨l, ls, rfl⟩ := List.exists_cons_of_ne_nil hne
          rw [List.forall_mem_cons] at hlag
          have hlag' : ∀ x ∈ ls ++ [c], Special backslash x :=
            List.forall_mem_append.mpr ⟨hlag.2, List.forall_mem_singleton.mpr hc⟩
          have hvalue' : (ls ++ [c]) ++ d :: text = d :: v := by
            simpa using (List.cons.inj hvalue).2
          exact special_ne (special_first (by simp) hlag' hvalue') hd rfl
        · simp [hend, hne]
        · -- the two characters have given one, and the lag grows
          rw [hread, Ne, push_eq_some]
          rintro ⟨v, hv, hvalue⟩
          obtain ⟨l, ls, rfl⟩ := List.exists_cons_of_ne_nil hne
          obtain ⟨rfl, rfl⟩ := List.cons.inj hvalue
          rw [List.forall_mem_cons] at hlag
          obtain rfl : d = l := he hlag.1
          have hlag' : ∀ x ∈ ls ++ [c, d], Special backslash x := by
            simp only [List.forall_mem_append, List.forall_mem_cons]
            exact ⟨hlag.2, hc, hlag.1, by simp⟩
          exact ih (by simp) hlag' (by simpa using hv)
      · rw [literal_other hc, Ne, push_eq_some]
        rintro ⟨v, -, hvalue⟩
        exact hc (special_first hne hlag hvalue)

/-- **A text between quotes is read as itself only if it is plain.** -/
theorem literal_self (htail : Ends backslash tail) :
    literal backslash (text ++ quote :: tail) = some (text, rest) ↔
      Plain backslash text ∧ rest = tail := by
  induction text using List.twoStepInduction with
  | nil =>
      rw [List.nil_append, htail.literal_end]
      simp [plain_nil, eq_comm]
  | singleton c =>
      by_cases hc : Special backslash c
      · refine iff_of_false ?_ fun h => not_plain_end hc h.1
        intro h
        -- a special character takes the closing quote for itself
        rcases htail.past hc h with hvalue | ⟨e, f, v, hvalue, -⟩ <;> simp at hvalue
      · rw [List.cons_append, literal_other hc, push_eq_some, plain_other hc, List.nil_append,
          htail.literal_end]
        simp [plain_nil, eq_comm]
  | cons_cons c d text ih₁ ih₂ =>
      by_cases hc : Special backslash c
      · rcases literal_special hc d (text ++ quote :: tail) with ⟨hquote, hd, hread⟩ | ⟨hd, hread⟩
        · have hbackslash : c = '\\' := (hc.resolve_left hquote).2
          -- an escaped `%` or `_` stands for itself with its backslash
          subst hbackslash
          rw [List.cons_append, List.cons_append, hread, push_eq_some, plain_escape hd, ← ih₁]
          simp
        · refine iff_of_false ?_ fun h => not_plain hc hd h.1
          intro h
          rw [List.cons_append, List.cons_append] at h
          rcases hread with hend | ⟨e, hread, he⟩
          · simp [hend] at h
          · rw [hread, push_eq_some] at h
            obtain ⟨v, hv, hvalue⟩ := h
            obtain ⟨rfl, rfl⟩ := List.cons.inj hvalue
            -- two special characters were read as one, and the literal is one behind from here on
            obtain rfl : d = c := he hc
            have hlag : ∀ x ∈ [d], Special backslash x := List.forall_mem_singleton.mpr hc
            exact literal_lag htail (by simp) hlag hv
      · rw [List.cons_append, literal_other hc, push_eq_some, plain_other hc, ← ih₂ d]
        simp

/-- A literal ends after it has begun. -/
theorem literal_length (hread : literal backslash text = some (value, rest)) :
    rest.length < text.length := by
  fun_induction literal backslash text generalizing value with
  | case1 | case3 => simp at hread
  | case2 | case5 =>
      obtain ⟨-, rfl⟩ := Prod.mk.inj (Option.some.inj hread)
      simp
  | case4 rest' ih | case6 c d rest' _ _ ih =>
      obtain ⟨v, hv, -⟩ := push_eq_some.mp hread
      exact Nat.lt_succ_of_lt (Nat.lt_succ_of_lt (ih hv))
  | case7 c d rest' _ _ ih =>
      obtain ⟨v, hv, -⟩ := push_eq_some.mp hread
      exact Nat.lt_succ_of_lt (ih hv)

end Literal

/-! ## Tokens

A token takes a character at least, so the length of a text is fuel enough, and more of it makes no
difference (`lexFuel_congr`). From there on `lex` is used by its two equations. -/

/-- The words of a condition are its names and keywords. -/
inductive Token where
  | word (w : List Char)
  | equals
  | string (value : List Char)
  deriving Repr, DecidableEq

/-- What a word begins with. -/
def isLetter (c : Char) : Bool := c.isAlpha || c == '_'

/-- What a word goes on with. -/
def isWordChar (c : Char) : Bool := c.isAlphanum || c == '_'

/-- The token that begins with a character, and what follows it. -/
def token (backslash : Bool) (c : Char) (rest : List Char) : Option (Token × List Char) :=
  if c = '=' then some (.equals, rest)
  else if isLetter c then
    some (.word (c :: rest.takeWhile isWordChar), rest.dropWhile isWordChar)
  else if c = quote then (literal backslash rest).map fun r => (.string r.1, r.2)
  else none

/-- The tokens, with fuel for the characters. -/
def lexFuel (backslash : Bool) : Nat → List Char → Option (List Token)
  | _, [] => some []
  | 0, _ :: _ => none
  | n + 1, c :: rest =>
      if c.isWhitespace then lexFuel backslash n rest
      else (token backslash c rest).bind fun t => (lexFuel backslash n t.2).map (t.1 :: ·)

/-- The tokens of a text. Each of them takes a character at least. -/
def lex (backslash : Bool) (cs : List Char) : Option (List Token) := lexFuel backslash cs.length cs

section Lex

variable {backslash : Bool} {c : Char} {rest : List Char}

/-- No token gives back more than it was given. -/
theorem token_length {t : Token × List Char} (h : token backslash c rest = some t) :
    t.2.length ≤ rest.length := by
  unfold token at h
  split_ifs at h
  · cases h
    exact Nat.le_refl _
  · cases h
    exact (List.dropWhile_sublist isWordChar).length_le
  · obtain ⟨r, hr, rfl⟩ := Option.map_eq_some_iff.mp h
    exact Nat.le_of_lt (literal_length hr)

/-- More fuel than characters makes no difference. -/
theorem lexFuel_congr {n m : Nat} {cs : List Char} (hn : cs.length ≤ n) (hm : cs.length ≤ m) :
    lexFuel backslash n cs = lexFuel backslash m cs := by
  induction n generalizing m cs with
  | zero =>
      obtain rfl : cs = [] := List.length_eq_zero_iff.mp (Nat.le_zero.mp hn)
      cases m <;> rfl
  | succ n ih =>
      cases cs with
      | nil => cases m <;> rfl
      | cons c rest =>
          rw [List.length_cons] at hn hm
          cases m with
          | zero => omega
          | succ m =>
              rw [lexFuel, lexFuel, ih (Nat.le_of_succ_le_succ hn) (Nat.le_of_succ_le_succ hm)]
              congr 1
              apply Option.bind_congr
              intro t ht
              have hshorter := token_length ht
              have htail : lexFuel backslash n t.2 = lexFuel backslash m t.2 :=
                ih (by omega) (by omega)
              rw [htail]

theorem lex_nil : lex backslash [] = some [] := rfl

theorem lex_cons (c : Char) (rest : List Char) :
    lex backslash (c :: rest) = if c.isWhitespace then lex backslash rest
      else (token backslash c rest).bind fun t => (lex backslash t.2).map (t.1 :: ·) := by
  show lexFuel backslash (rest.length + 1) (c :: rest) = _
  rw [lexFuel]
  congr 1
  apply Option.bind_congr
  intro t ht
  rw [lexFuel_congr (token_length ht) (Nat.le_refl _)]
  rfl

end Lex

/-! ## Conditions

`and` binds stronger than `or`, so a condition is a list of conjunctions. A comparison that follows
an `and` joins the first conjunction of what comes after it. -/

inductive Operand where
  | column (name : String)
  | value (text : String)
  deriving Repr, DecidableEq

/-- `left = right` -/
structure Comparison where
  left : Operand
  right : Operand
  deriving Repr, DecidableEq

/-- Comparisons joined by `and`, and these by `or`. -/
abbrev Condition := List (List Comparison)

def andWord : List Char := ['a', 'n', 'd']

def orWord : List Char := ['o', 'r']

/-- Names and keywords may be written in capitals. -/
def operand : Token → Option Operand
  | .word w =>
      let name := w.map Char.toLower
      if name = andWord ∨ name = orWord then none else some (.column (String.ofList name))
  | .string value => some (.value (String.ofList value))
  | .equals => none

/-- Both sides must be operands. -/
def comparison (left right : Token) : Option Comparison :=
  (operand left).bind fun left => (operand right).map fun right => ⟨left, right⟩

/-- `and` takes a comparison into the next conjunction, which `or` does not. -/
def conjoin (c : Comparison) : Condition → Option Condition
  | [] => none
  | all :: any => some ((c :: all) :: any)

/-- The condition that the tokens make. -/
def parse : List Token → Option Condition
  | left :: .equals :: right :: rest =>
      (comparison left right).bind fun c =>
        match rest with
        | [] => some [[c]]
        | .word w :: rest =>
            if w.map Char.toLower = andWord then (parse rest).bind (conjoin c)
            else if w.map Char.toLower = orWord then (parse rest).map ([c] :: ·)
            else none
        | _ => none
  | _ => none

/-- From the text to the condition. -/
def read (backslash : Bool) (cs : List Char) : Option Condition :=
  (lex backslash cs).bind parse

def Operand.among (columns : List String) : Operand → Bool
  | .column name => columns.contains name
  | .value _ => true

/-- All names in the condition are among these columns. -/
def Condition.among (columns : List String) (condition : Condition) : Bool :=
  condition.all fun all => all.all fun c => c.left.among columns && c.right.among columns

/-- What a server takes as equal texts. It may ignore capitals, but not digits. -/
structure Collation where
  same : String → String → Bool
  numerals : ∀ m n : Nat, same (toString m) (toString n) = true ↔ m = n

section Rows

variable (collation : Collation) (row : String → Option String)

/-- A text, or a cell of the row. -/
def Operand.text : Operand → Option String
  | .column name => row name
  | .value text => some text

def Comparison.holds (c : Comparison) : Bool :=
  match c.left.text row, c.right.text row with
  | some left, some right => collation.same left right
  | _, _ => false

/-- Whether a row is selected. -/
def Condition.holds (condition : Condition) : Bool :=
  condition.any fun all => all.all fun c => c.holds collation row

end Rows


/-! ## Conjunctions

A program that puts values between quotes and joins the equations by ` and ` means a conjunction. It
is read as the conjunction only if every value is plain: the first value has to be read up to its
own quote, by `literal_self`, and then the rest of the text is read as the rest of the conjunction.
-/

/-- A name in small letters that is not a keyword. -/
structure IsName (name : List Char) : Prop where
  letter : ∃ c rest, name = c :: rest ∧ isLetter c = true
  chars : name.all isWordChar = true
  lower : name.map Char.toLower = name
  keyword : name ≠ andWord ∧ name ≠ orWord

/-- `name='value'` -/
def equation (name value : List Char) : List Char := name ++ '=' :: quote :: (value ++ [quote])

/-- What it should mean. -/
def equationOf (name value : List Char) : Comparison :=
  ⟨.column (String.ofList name), .value (String.ofList value)⟩

section Conjunction

variable {backslash : Bool} {name value more tail : List Char} {tokens : List Token} {c : Char}

/-- Space is no token. -/
theorem lex_space (rest : List Char) : lex backslash (' ' :: rest) = lex backslash rest := by
  rw [lex_cons, if_pos (by decide)]

/-- The sign of an equation. -/
theorem lex_equals (rest : List Char) :
    lex backslash ('=' :: rest) = (lex backslash rest).map (Token.equals :: ·) := by
  rw [lex_cons, if_neg (by decide)]
  rfl

/-- A quote opens a literal. -/
theorem lex_quote (rest : List Char) :
    lex backslash (quote :: rest) = (literal backslash rest).bind fun r =>
      (lex backslash r.2).map (Token.string r.1 :: ·) := by
  rw [lex_cons, if_neg (by decide), token, if_neg (by decide), if_neg (by decide), if_pos rfl,
    Option.bind_map]
  rfl

/-- No letter is a space. -/
theorem not_space {c : Char} (hc : isLetter c = true) : ¬ c.isWhitespace = true := by
  intro hspace
  simp only [Char.isWhitespace, Bool.or_eq_true, decide_eq_true_eq] at hspace
  rcases hspace with ((rfl | rfl) | rfl) | rfl <;> revert hc <;> decide

/-- A word ends where its characters do. -/
theorem lex_word (hletter : ∃ c rest, name = c :: rest ∧ isLetter c = true)
    (hchars : name.all isWordChar = true) (hc : isWordChar c = false) (rest : List Char) :
    lex backslash (name ++ c :: rest) =
      (lex backslash (c :: rest)).map (Token.word name :: ·) := by
  obtain ⟨d, name, rfl, hd⟩ := hletter
  rw [List.all_eq_true, List.forall_mem_cons] at hchars
  have hne : d ≠ '=' := by
    rintro rfl
    exact absurd hd (by decide)
  rw [List.cons_append, lex_cons, if_neg (not_space hd), token, if_neg hne, if_pos hd,
    Option.bind_some, List.takeWhile_append_of_pos hchars.2, List.dropWhile_append_of_pos hchars.2,
    List.takeWhile_cons_of_neg (by simp [hc]), List.dropWhile_cons_of_neg (by simp [hc]),
    List.append_nil]

/-- An equation has three tokens, when its value is read up to its quote. -/
theorem lex_equation (h : IsName name) (value tail : List Char) :
    lex backslash (equation name value ++ tail) =
      (literal backslash (value ++ quote :: tail)).bind fun r => (lex backslash r.2).map
        fun tokens => Token.word name :: Token.equals :: Token.string r.1 :: tokens := by
  have htext : equation name value ++ tail = name ++ '=' :: quote :: (value ++ quote :: tail) := by
    simp [equation]
  rw [htext, lex_word h.letter h.chars (by decide), lex_equals, lex_quote]
  cases literal backslash (value ++ quote :: tail) with
  | none => rfl
  | some r => simp [Option.map_map, Function.comp_def]

theorem operand_name (h : IsName name) :
    operand (.word name) = some (.column (String.ofList name)) := by
  simp only [operand, h.lower, h.keyword, or_self, if_false]

theorem comparison_equation (h : IsName name) (value : List Char) :
    comparison (.word name) (.string value) = some (equationOf name value) := by
  rw [comparison, operand_name h]
  rfl


/-- An equation tells its value. -/
theorem equationOf_inj {value' : List Char} :
    equationOf name value = equationOf name value' ↔ value = value' := by
  simp [equationOf, String.ofList_inj]

section Parse

variable {left right : Token} {c d : Comparison} {rest : List Token} {all : List Comparison}
  {any : Condition}

/-- A comparison at the end. -/
theorem parse_last (h : comparison left right = some c) :
    parse [left, .equals, right] = some [[c]] := by
  simp [parse, h]

/-- A comparison with more to come. -/
theorem parse_and (h : comparison left right = some c) (rest : List Token) :
    parse (left :: .equals :: right :: .word andWord :: rest) = (parse rest).bind (conjoin c) := by
  have hand : andWord.map Char.toLower = andWord := by decide
  rw [parse, h, Option.bind_some]
  dsimp only
  rw [if_pos hand]

theorem conjoin_eq_some {condition : Condition} :
    conjoin d condition = some ((c :: all) :: any) ↔ d = c ∧ condition = all :: any := by
  cases condition with
  | nil => simp [conjoin]
  | cons all' any' => simp [conjoin, and_assoc]

/-- The first comparison is read first. -/
theorem parse_first (h : comparison left right = some d)
    (hparse : parse (left :: .equals :: right :: rest) = some ((c :: all) :: any)) : d = c := by
  rw [parse.eq_def] at hparse
  simp only [h, Option.bind_some] at hparse
  split at hparse
  · simp_all
  · split_ifs at hparse
    · obtain ⟨condition, -, hcondition⟩ := Option.bind_eq_some_iff.mp hparse
      exact (conjoin_eq_some.mp hcondition).1
    · obtain ⟨condition, -, hcondition⟩ := Option.map_eq_some_iff.mp hparse
      simp_all
  · simp at hparse

end Parse

/-- What is read from an equation and what follows. -/
theorem read_equation (h : IsName name) (value tail : List Char) :
    read backslash (equation name value ++ tail) =
      (literal backslash (value ++ quote :: tail)).bind fun r => (lex backslash r.2).bind
        fun tokens => parse (Token.word name :: Token.equals :: Token.string r.1 :: tokens) := by
  rw [read, lex_equation h, Option.bind_assoc]
  apply Option.bind_congr
  intro r _
  rw [Option.bind_map]
  rfl

/-- **If the first comparison is right, then the value is plain** and what follows is the tail. -/
theorem read_first (h : IsName name) (htail : Ends backslash tail) {all : List Comparison}
    {any : Condition} (hread : read backslash (equation name value ++ tail) =
      some ((equationOf name value :: all) :: any)) : Plain backslash value := by
  rw [read_equation h, Option.bind_eq_some_iff] at hread
  obtain ⟨⟨v, rest⟩, hliteral, hread⟩ := hread
  obtain ⟨tokens, -, hparse⟩ := Option.bind_eq_some_iff.mp hread
  have hvalue := parse_first (comparison_equation h v) hparse
  rw [equationOf_inj] at hvalue
  subst hvalue
  exact ((literal_self htail).mp hliteral).1

/-- A plain value is read as itself, and then the rest. -/
theorem read_plain (h : IsName name) (htail : Ends backslash tail)
    (hplain : Plain backslash value) :
    read backslash (equation name value ++ tail) = (lex backslash tail).bind
      fun tokens => parse (Token.word name :: Token.equals :: Token.string value :: tokens) := by
  rw [read_equation h, (literal_self htail).mpr ⟨hplain, rfl⟩, Option.bind_some]

/-- ` and `, as it stands in the text. -/
def andText : List Char := ' ' :: (andWord ++ [' '])

/-- The word between two equations. -/
theorem lex_and (more : List Char) :
    lex backslash (andText ++ more) = (lex backslash more).map (Token.word andWord :: ·) := by
  have htext : andText ++ more = ' ' :: (andWord ++ ' ' :: more) := by simp [andText]
  have hletter : ∃ c rest, andWord = c :: rest ∧ isLetter c = true :=
    ⟨'a', ['n', 'd'], rfl, by decide⟩
  rw [htext, lex_space, lex_word hletter (by decide) (by decide), lex_space]

/-- No value runs into it. -/
theorem ends_and (more : List Char) : Ends backslash (andText ++ more) := by
  intro c rest h
  obtain ⟨rfl, -⟩ := List.cons.inj h
  exact fun h => h.elim (by decide) (fun h => absurd h.2 (by decide))

/-- An equation with a plain value, and more to come. -/
theorem read_and (h : IsName name) (hplain : Plain backslash value) (more : List Char) :
    read backslash (equation name value ++ (andText ++ more)) =
      (read backslash more).bind (conjoin (equationOf name value)) := by
  rw [read_plain h (ends_and more) hplain, lex_and, Option.bind_map, read, Option.bind_assoc]
  apply Option.bind_congr
  intro tokens _
  exact parse_and (comparison_equation h value) tokens

/-- The equations, joined by `and`. -/
def conjunction : List (List Char × List Char) → List Char
  | [] => []
  | [e] => equation e.1 e.2
  | e :: e' :: es => equation e.1 e.2 ++ (andText ++ conjunction (e' :: es))

/-- **A conjunction is read as what it should mean only if all of its values are plain.** -/
theorem read_conjunction {es : List (List Char × List Char)} (hne : es ≠ [])
    (hnames : ∀ e ∈ es, IsName e.1) :
    read backslash (conjunction es) = some [es.map fun e => equationOf e.1 e.2] ↔
      ∀ e ∈ es, Plain backslash e.2 := by
  induction es with
  | nil => exact absurd rfl hne
  | cons e es ih =>
      rw [List.forall_mem_cons] at hnames
      rw [List.forall_mem_cons]
      cases es with
      | nil =>
          have hends : Ends backslash [] := fun c rest h => absurd h (by simp)
          rw [conjunction, ← List.append_nil (equation e.1 e.2)]
          constructor
          · intro hread
            exact ⟨read_first hnames.1 hends hread, by simp⟩
          · rintro ⟨hplain, -⟩
            rw [read_plain hnames.1 hends hplain, lex_nil, Option.bind_some]
            exact parse_last (comparison_equation hnames.1 e.2)
      | cons e' es =>
          have ih := ih (by simp) hnames.2
          rw [conjunction]
          constructor
          · intro hread
            have hplain : Plain backslash e.2 := read_first hnames.1 (ends_and _) hread
            rw [read_and hnames.1 hplain, Option.bind_eq_some_iff] at hread
            obtain ⟨condition, hread, hcondition⟩ := hread
            obtain ⟨-, rfl⟩ := conjoin_eq_some.mp hcondition
            exact ⟨hplain, ih.mp hread⟩
          · rintro ⟨hplain, hplains⟩
            rw [read_and hnames.1 hplain, ih.mpr hplains]
            rfl

/-- A row that a conjunction of equations holds of. -/
theorem holds_conjunction {collation : Collation} {row : String → Option String}
    {es : List (List Char × List Char)} :
    Condition.holds collation row [es.map fun e => equationOf e.1 e.2] = true ↔
      ∀ e ∈ es, ∃ text, row (String.ofList e.1) = some text ∧
        collation.same text (String.ofList e.2) = true := by
  have hequation : ∀ e : List Char × List Char,
      (equationOf e.1 e.2).holds collation row = true ↔
        ∃ text, row (String.ofList e.1) = some text ∧
          collation.same text (String.ofList e.2) = true := by
    intro e
    simp only [Comparison.holds, equationOf, Operand.text]
    cases row (String.ofList e.1) <;> simp
  simp [Condition.holds, hequation]

end Conjunction

end Pledge.Text.Sql
