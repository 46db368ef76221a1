import Mathlib.Algebra.BigOperators.Group.List.Basic
import Mathlib.Algebra.Ring.Nat
import Mathlib.Data.List.Basic
import Mathlib.Data.String.Basic
import Mathlib.Tactic.Common

/-!
# Flat JSON objects and arrays

Objects and arrays whose values are strings, as Go's `encoding/json` writes and reads them. The writer
escapes quotes, backslashes, control characters, and the characters that mean something in HTML. The
reader takes any layout and any escape; a value that is not a string is not read at all.

`read_write` and `readArray_write` are the round trips.
-/

namespace Pledge.Text.Json

/-! ## Writing -/

/-- The four digits after `\u`. -/
def hex4 (n : Nat) : List Char :=
  [Nat.digitChar (n / 4096 % 16), Nat.digitChar (n / 256 % 16), Nat.digitChar (n / 16 % 16),
    Nat.digitChar (n % 16)]

/-- The characters that are written as `\u` and their code. -/
def coded (c : Char) : Bool :=
  c.toNat < 32 || c = '<' || c = '>' || c = '&' || c.toNat = 0x2028 || c.toNat = 0x2029

/-- A character as it stands in a literal. -/
def escape (c : Char) : List Char :=
  if c = '"' then ['\\', '"']
  else if c = '\\' then ['\\', '\\']
  else if c = '\n' then ['\\', 'n']
  else if c = '\r' then ['\\', 'r']
  else if c = '\t' then ['\\', 't']
  else if coded c then '\\' :: 'u' :: hex4 c.toNat
  else [c]

/-- A literal, with its quotes. -/
def writeString (s : String) : List Char := '"' :: s.toList.flatMap escape ++ ['"']

/-- A name and its value. -/
def writeField (field : String × String) : List Char :=
  writeString field.1 ++ ':' :: writeString field.2

/-- The fields, with commas between them. -/
def writeFields : List (String × String) → List Char
  | [] => []
  | [field] => writeField field
  | field :: fields => writeField field ++ ',' :: writeFields fields

/-- `json.Marshal`. -/
def write (fields : List (String × String)) : String :=
  String.ofList ('{' :: writeFields fields ++ ['}'])

/-! ## Reading

The reader knows more than the writer writes: space anywhere between the tokens, every escape of the
standard, and digits in both cases. What it takes from a text is shorter than the text, which is why
the length of the rest is fuel enough. -/

/-- A hexadecimal digit. -/
def hexValue (c : Char) : Option Nat :=
  if '0' ≤ c ∧ c ≤ '9' then some (c.toNat - '0'.toNat)
  else if 'a' ≤ c ∧ c ≤ 'f' then some (c.toNat - 'a'.toNat + 10)
  else if 'A' ≤ c ∧ c ≤ 'F' then some (c.toNat - 'A'.toNat + 10)
  else none

/-- Four of them. -/
def readHex4 (a b c d : Char) : Option Nat :=
  match hexValue a, hexValue b, hexValue c, hexValue d with
  | some a, some b, some c, some d => some (4096 * a + 256 * b + 16 * c + d)
  | _, _, _, _ => none

/-- The character after a backslash, other than `u`. -/
def unescape (c : Char) : Option Nat :=
  if c = '"' ∨ c = '\\' ∨ c = '/' then some c.toNat
  else if c = 'b' then some 8
  else if c = 'f' then some 12
  else if c = 'n' then some 10
  else if c = 'r' then some 13
  else if c = 't' then some 9
  else none

/-- The codes up to the closing quote, and what follows it. -/
def readCodes : List Char → Option (List Nat × List Char)
  | [] => none
  | '"' :: rest => some ([], rest)
  | '\\' :: 'u' :: a :: b :: c :: d :: rest =>
      match readHex4 a b c d, readCodes rest with
      | some code, some (codes, rest) => some (code :: codes, rest)
      | _, _ => none
  | '\\' :: e :: rest =>
      match unescape e, readCodes rest with
      | some code, some (codes, rest) => some (code :: codes, rest)
      | _, _ => none
  | c :: rest =>
      if c.toNat < 32 then none
      else
        match readCodes rest with
        | some (codes, rest) => some (c.toNat :: codes, rest)
        | none => none

/-- Codes become characters. A pair of surrogates is one character, and a single one is none. -/
def characters : List Nat → List Char
  | [] => []
  | [code] => [if code < 0xD800 ∨ 0xDFFF < code then Char.ofNat code else '\uFFFD']
  | code :: next :: codes =>
      if code < 0xD800 ∨ 0xDFFF < code then Char.ofNat code :: characters (next :: codes)
      else if code < 0xDC00 ∧ 0xDC00 ≤ next ∧ next ≤ 0xDFFF then
        Char.ofNat (0x10000 + (code - 0xD800) * 0x400 + (next - 0xDC00)) :: characters codes
      else '\uFFFD' :: characters (next :: codes)

def isSpace (c : Char) : Bool := c = ' ' || c = '\t' || c = '\n' || c = '\r'

/-- What follows the space at the front. -/
def skipSpace (text : List Char) : List Char := text.dropWhile isSpace

/-- A literal, and what follows it. -/
def readString (text : List Char) : Option (String × List Char) :=
  match skipSpace text with
  | '"' :: rest =>
      match readCodes rest with
      | some (codes, rest) => some (String.ofList (characters codes), rest)
      | none => none
  | _ => none

/-- A name and a value, and what follows them. -/
def readField (text : List Char) : Option ((String × String) × List Char) :=
  match readString text with
  | none => none
  | some (name, rest) =>
      match skipSpace rest with
      | ':' :: rest =>
          match readString rest with
          | none => none
          | some (value, rest) => some ((name, value), skipSpace rest)
      | _ => none

/-- The fields up to the closing brace. Every field takes some of the text, so its length is enough
fuel. -/
def readFields : Nat → List Char → Option (List (String × String) × List Char)
  | 0, _ => none
  | fuel + 1, text =>
      match readField text with
      | some (field, '}' :: rest) => some ([field], rest)
      | some (field, ',' :: rest) =>
          match readFields fuel rest with
          | some (fields, rest) => some (field :: fields, rest)
          | none => none
      | _ => none

/-- `json.Unmarshal`, before the fields are put where they belong. -/
def read (text : String) : Option (List (String × String)) :=
  match skipSpace text.toList with
  | '{' :: rest =>
      match skipSpace rest with
      | '}' :: rest => if (skipSpace rest).isEmpty then some [] else none
      | body =>
          match readFields body.length body with
          | some (fields, rest) => if (skipSpace rest).isEmpty then some fields else none
          | none => none
  | _ => none

/-- The value of a field, the last one of its name, or an empty text. -/
def field (fields : List (String × String)) (name : String) : String :=
  match fields.reverse.find? fun entry => decide (entry.1 = name) with
  | some entry => entry.2
  | none => ""

/-! ## The round trip

From the inside out: the digits of a code, a character and its escape, a literal, a field, the list
of fields. Each lemma has an arbitrary rest behind what was written, since that is how the next one
meets it. -/

/-- A digit is read as it is written. -/
theorem hexValue_digitChar {n : Nat} (h : n < 16) : hexValue (Nat.digitChar n) = some n := by
  have hall : ∀ n < 16, hexValue (Nat.digitChar n) = some n := by decide
  exact hall n h

/-- Four digits have room for every code that is written in this way. -/
theorem readHex4_hex4 {n : Nat} (h : n < 65536) :
    readHex4 (Nat.digitChar (n / 4096 % 16)) (Nat.digitChar (n / 256 % 16))
      (Nat.digitChar (n / 16 % 16)) (Nat.digitChar (n % 16)) = some n := by
  unfold readHex4
  rw [hexValue_digitChar (Nat.mod_lt _ (by omega)), hexValue_digitChar (Nat.mod_lt _ (by omega)),
    hexValue_digitChar (Nat.mod_lt _ (by omega)), hexValue_digitChar (Nat.mod_lt _ (by omega))]
  show some (4096 * (n / 4096 % 16) + 256 * (n / 256 % 16) + 16 * (n / 16 % 16) + n % 16) = some n
  congr 1
  omega

/-- What is written as a code has one of four digits. -/
theorem coded_lt {c : Char} (h : coded c = true) : c.toNat < 65536 := by
  simp only [coded, Bool.or_eq_true, decide_eq_true_eq] at h
  rcases h with ((((h | rfl) | rfl) | rfl) | h) | h
  · omega
  · decide
  · decide
  · decide
  · omega
  · omega

/-- A character that is not escaped. -/
theorem readCodes_plain {c : Char} (hquote : c ≠ '"') (hslash : c ≠ '\\') (hcontrol : 32 ≤ c.toNat)
    (rest : List Char) :
    readCodes (c :: rest) = (readCodes rest).map fun p => (c.toNat :: p.1, p.2) := by
  rw [readCodes.eq_def]
  split
  · next heq => cases heq
  · next heq =>
      rw [List.cons.injEq] at heq
      exact absurd heq.1 hquote
  · next heq =>
      rw [List.cons.injEq] at heq
      exact absurd heq.1 hslash
  · next heq =>
      rw [List.cons.injEq] at heq
      exact absurd heq.1 hslash
  · next heq =>
      obtain ⟨rfl, rfl⟩ := List.cons.inj heq
      rw [if_neg (by omega)]
      cases readCodes rest <;> rfl

/-- A backslash and one more character. -/
theorem readCodes_slash {e : Char} {code : Nat} (hu : e ≠ 'u') (hcode : unescape e = some code)
    (rest : List Char) :
    readCodes ('\\' :: e :: rest) = (readCodes rest).map fun p => (code :: p.1, p.2) := by
  rw [readCodes.eq_def]
  split
  · next heq => cases heq
  · next heq =>
      rw [List.cons.injEq] at heq
      exact absurd heq.1 (by decide)
  · next heq =>
      simp only [List.cons.injEq] at heq
      exact absurd heq.2.1 hu
  · next heq =>
      simp only [List.cons.injEq, true_and] at heq
      obtain ⟨rfl, rfl⟩ := heq
      rw [hcode]
      cases readCodes rest <;> rfl
  · next hnot heq =>
      obtain ⟨rfl, rfl⟩ := List.cons.inj heq
      exact (hnot e rest rfl rfl).elim

/-- A character that is written as its code. -/
theorem readCodes_hex4 {code : Nat} (h : code < 65536) (rest : List Char) :
    readCodes ('\\' :: 'u' :: hex4 code ++ rest) =
      (readCodes rest).map fun p => (code :: p.1, p.2) := by
  show readCodes ('\\' :: 'u' :: _ :: _ :: _ :: _ :: rest) = _
  rw [readCodes, readHex4_hex4 h]
  cases readCodes rest <;> rfl

/-- One character of a string literal. -/
theorem readCodes_escape (c : Char) (rest : List Char) :
    readCodes (escape c ++ rest) = (readCodes rest).map fun p => (c.toNat :: p.1, p.2) := by
  unfold escape
  split
  · next h =>
      subst h
      exact readCodes_slash (by decide) rfl rest
  · split
    · next h =>
        subst h
        exact readCodes_slash (by decide) rfl rest
    · split
      · next h =>
          subst h
          exact readCodes_slash (by decide) rfl rest
      · split
        · next h =>
            subst h
            exact readCodes_slash (by decide) rfl rest
        · split
          · next h =>
              subst h
              exact readCodes_slash (by decide) rfl rest
          · split
            · next h => exact readCodes_hex4 (coded_lt h) rest
            · next hquote hslash _ _ _ h =>
                apply readCodes_plain hquote hslash
                simp only [coded, Bool.or_eq_true, decide_eq_true_eq, not_or] at h
                omega

/-- The characters of a string literal, and its closing quote. -/
theorem readCodes_string (cs rest : List Char) :
    readCodes (cs.flatMap escape ++ '"' :: rest) = some (cs.map Char.toNat, rest) := by
  induction cs with
  | nil => rfl
  | cons c cs ih =>
      rw [List.flatMap_cons, List.append_assoc, readCodes_escape, ih]
      rfl

/-- No character is a surrogate. -/
theorem characters_toNat (cs : List Char) : characters (cs.map Char.toNat) = cs := by
  have hplain (c : Char) : c.toNat < 0xD800 ∨ 0xDFFF < c.toNat := by
    rcases c.valid with h | h
    · exact .inl h
    · exact .inr h.1
  induction cs with
  | nil => rfl
  | cons c cs ih =>
      cases cs with
      | nil => simp [characters, hplain c]
      | cons d ds =>
          rw [List.map_cons, List.map_cons, characters, if_pos (hplain c), Char.ofNat_toNat]
          rw [List.map_cons] at ih
          rw [ih]

/-- There is nothing to skip before anything else. -/
theorem skipSpace_cons {c : Char} (h : isSpace c = false) (rest : List Char) :
    skipSpace (c :: rest) = c :: rest := by
  unfold skipSpace
  rw [List.dropWhile_cons, h]
  rfl

/-- A literal is read back. -/
theorem readString_write (s : String) (rest : List Char) :
    readString (writeString s ++ rest) = some (s, rest) := by
  have htext : writeString s ++ rest = '"' :: (s.toList.flatMap escape ++ '"' :: rest) := by
    simp [writeString]
  unfold readString
  rw [htext, skipSpace_cons (by decide)]
  show (match readCodes _ with | some (codes, rest) => _ | none => _) = _
  rw [readCodes_string]
  show some (String.ofList (characters (s.toList.map Char.toNat)), rest) = _
  rw [characters_toNat, String.ofList_toList]

/-- A field is read back. -/
theorem readField_write (f : String × String) (rest : List Char) :
    readField (writeField f ++ rest) = some (f, skipSpace rest) := by
  have htext : writeField f ++ rest = writeString f.1 ++ ':' :: (writeString f.2 ++ rest) := by
    simp [writeField]
  unfold readField
  rw [htext, readString_write]
  show (match skipSpace (':' :: (writeString f.2 ++ rest)) with | ':' :: rest => _ | _ => none) = _
  rw [skipSpace_cons (by decide)]
  show (match readString _ with | none => none | some (value, rest) => _) = _
  rw [readString_write]

/-- **Fields that were written are read**, with fuel for each. -/
theorem readFields_write {fields : List (String × String)} (hne : fields ≠ []) (rest : List Char)
    {fuel : Nat} (hfuel : fields.length ≤ fuel) :
    readFields fuel (writeFields fields ++ '}' :: rest) = some (fields, rest) := by
  induction fields generalizing fuel with
  | nil => exact absurd rfl hne
  | cons f fs ih =>
      obtain ⟨fuel, rfl⟩ : ∃ n, fuel = n + 1 := ⟨fuel - 1, by simp at hfuel; omega⟩
      cases fs with
      | nil =>
          rw [writeFields, readFields, readField_write, skipSpace_cons (by decide)]
          rfl
      | cons g gs =>
          have htext : writeFields (f :: g :: gs) ++ '}' :: rest =
              writeField f ++ ',' :: (writeFields (g :: gs) ++ '}' :: rest) := by
            simp [writeFields]
          rw [htext, readFields, readField_write, skipSpace_cons (by decide)]
          show (match readFields fuel _ with | some (fields, rest) => _ | none => none) = _
          rw [ih (List.cons_ne_nil _ _) (by simpa using hfuel)]

theorem length_writeFields (fields : List (String × String)) :
    fields.length ≤ (writeFields fields).length := by
  induction fields with
  | nil => exact Nat.le_refl _
  | cons f fs ih =>
      cases fs with
      | nil => simp [writeFields, writeField, writeString]
      | cons g gs =>
          rw [writeFields, List.length_append, List.length_cons, List.length_cons]
          · rw [List.length_cons] at ih
            show gs.length + 1 + 1 ≤ _ + ((writeFields (g :: gs)).length + 1)
            omega
          · exact List.cons_ne_nil g gs

/-- **What is written is read back.** -/
theorem read_write (fields : List (String × String)) : read (write fields) = some fields := by
  cases fields with
  | nil => rfl
  | cons f fs =>
      have htext : (write (f :: fs)).toList = '{' :: (writeFields (f :: fs) ++ '}' :: []) := by
        unfold write
        rw [String.toList_ofList]
        rfl
      obtain ⟨body, hbody⟩ : ∃ body, writeFields (f :: fs) = '"' :: body := by
        cases fs with
        | nil => exact ⟨_, rfl⟩
        | cons g gs => exact ⟨_, rfl⟩
      have hlength : (f :: fs).length ≤ (writeFields (f :: fs) ++ '}' :: []).length := by
        have hfields := length_writeFields (f :: fs)
        rw [List.length_append]
        omega
      have hread := readFields_write (List.cons_ne_nil f fs) [] hlength
      unfold read
      rw [htext, skipSpace_cons (by decide)]
      show (match skipSpace (writeFields (f :: fs) ++ '}' :: []) with
        | '}' :: rest => _
        | body => _) = _
      rw [hbody] at hread ⊢
      rw [List.cons_append] at hread ⊢
      rw [skipSpace_cons (by decide)]
      show (match readFields _ _ with | some (fields, rest) => _ | none => none) = _
      rw [hread]
      rfl

/-! ## Arrays -/

/-- What follows an element, up to the closing bracket. -/
def writeTail : List String → List Char
  | [] => [']']
  | s :: ss => ',' :: (writeString s ++ writeTail ss)

/-- `json.Marshal` of a slice. One that was never made is `null`. -/
def writeArray : Option (List String) → String
  | none => "null"
  | some [] => "[]"
  | some (s :: ss) => String.ofList ('[' :: (writeString s ++ writeTail ss))

/-- The elements after one, up to the closing bracket, and what follows that. -/
def readTail : Nat → List Char → Option (List String × List Char)
  | 0, _ => none
  | fuel + 1, text =>
      match skipSpace text with
      | ']' :: rest => some ([], rest)
      | ',' :: rest =>
          match readString rest with
          | none => none
          | some (s, rest) => (readTail fuel rest).map fun p => (s :: p.1, p.2)
      | _ => none

/-- The elements after the opening bracket. -/
def readElements (text : List Char) : Option (List String × List Char) :=
  match skipSpace text with
  | ']' :: rest => some ([], rest)
  | text =>
      match readString text with
      | none => none
      | some (s, rest) => (readTail rest.length rest).map fun p => (s :: p.1, p.2)

/-- `json.Unmarshal` into a slice, which `null` leaves as it is. -/
def readArray (text : String) : Option (Option (List String)) :=
  match skipSpace text.toList with
  | 'n' :: 'u' :: 'l' :: 'l' :: rest => if (skipSpace rest).isEmpty then some none else none
  | '[' :: rest =>
      match readElements rest with
      | some (ss, rest) => if (skipSpace rest).isEmpty then some (some ss) else none
      | none => none
  | _ => none

theorem readTail_write (ss : List String) (rest : List Char) {fuel : Nat} (hfuel : ss.length < fuel) :
    readTail fuel (writeTail ss ++ rest) = some (ss, rest) := by
  induction ss generalizing fuel with
  | nil =>
      obtain ⟨fuel, rfl⟩ : ∃ n, fuel = n + 1 := ⟨fuel - 1, by simp at hfuel; omega⟩
      show readTail (fuel + 1) (']' :: rest) = _
      rw [readTail, skipSpace_cons (by decide)]
      rfl
  | cons s ss ih =>
      obtain ⟨fuel, rfl⟩ : ∃ n, fuel = n + 1 := ⟨fuel - 1, by simp at hfuel; omega⟩
      have htext : writeTail (s :: ss) ++ rest = ',' :: (writeString s ++ (writeTail ss ++ rest)) := by
        simp [writeTail]
      rw [htext, readTail, skipSpace_cons (by decide)]
      show (match readString (writeString s ++ _) with | none => none | some (s, rest) => _) = _
      rw [readString_write]
      show (readTail fuel (writeTail ss ++ rest)).map _ = _
      rw [ih (by simpa using hfuel)]
      rfl

theorem length_writeTail (ss : List String) : ss.length < (writeTail ss).length := by
  induction ss with
  | nil => exact Nat.one_pos
  | cons s ss ih =>
      rw [writeTail, List.length_cons, List.length_cons, List.length_append]
      omega

theorem readElements_write (s : String) (ss : List String) :
    readElements (writeString s ++ writeTail ss) = some (s :: ss, []) := by
  have htext : writeString s ++ writeTail ss =
      '"' :: (s.toList.flatMap escape ++ '"' :: writeTail ss) := by
    simp [writeString]
  have htail := readTail_write ss [] (length_writeTail ss)
  rw [List.append_nil] at htail
  have hstring := readString_write s (writeTail ss)
  rw [htext] at hstring ⊢
  unfold readElements
  rw [skipSpace_cons (by decide)]
  show (match readString ('"' :: _) with | none => none | some (s, rest) => _) = _
  rw [hstring]
  show (readTail (writeTail ss).length (writeTail ss)).map _ = _
  rw [htail]
  rfl

/-- **A list that is written is read back.** -/
theorem readArray_write (list : Option (List String)) : readArray (writeArray list) = some list := by
  cases list with
  | none => decide
  | some ss =>
      cases ss with
      | nil => decide
      | cons s ss =>
          have htext : (writeArray (some (s :: ss))).toList =
              '[' :: (writeString s ++ writeTail ss) := by
            unfold writeArray
            rw [String.toList_ofList]
          unfold readArray
          rw [htext, skipSpace_cons (by decide)]
          show (match readElements (writeString s ++ writeTail ss) with
            | some (ss, rest) => _
            | none => none) = _
          rw [readElements_write]
          rfl

/-! ## How long a list becomes -/

theorem length_escape (c : Char) : 1 ≤ (escape c).length := by
  unfold escape
  repeat' split
  all_goals simp

theorem length_writeString (s : String) : s.toList.length + 2 ≤ (writeString s).length := by
  have hchars (cs : List Char) : cs.length ≤ (cs.flatMap escape).length := by
    induction cs with
    | nil => exact Nat.le_refl _
    | cons c cs ih =>
        have hc := length_escape c
        rw [List.flatMap_cons, List.length_append, List.length_cons]
        omega
  have hs := hchars s.toList
  rw [writeString, List.length_append, List.length_cons, List.length_singleton]
  omega

/-- Each element takes its characters, two quotes, and a comma or a bracket. -/
theorem length_writeArray (ss : List String) :
    (ss.map fun s => s.toList.length + 3).sum + 1 ≤ (writeArray (some ss)).toList.length := by
  have htail (ss : List String) :
      (ss.map fun s => s.toList.length + 3).sum + 1 ≤ (writeTail ss).length := by
    induction ss with
    | nil => exact Nat.le_refl _
    | cons s ss ih =>
        have hs := length_writeString s
        rw [writeTail, List.map_cons, List.sum_cons, List.length_cons, List.length_append]
        omega
  cases ss with
  | nil => decide
  | cons s ss =>
      have hs := length_writeString s
      have hss := htail ss
      rw [writeArray, String.toList_ofList, List.map_cons, List.sum_cons, List.length_cons,
        List.length_append]
      omega

end Pledge.Text.Json
