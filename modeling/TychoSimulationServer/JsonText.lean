import Mathlib.Algebra.BigOperators.Group.List.Basic
import Mathlib.Data.String.Basic
import Mathlib.Tactic.Common

/-!
# JSON strings and texts cut by bytes

A JSON string is written between quotes, with some characters escaped. A text that is itself JSON
is full of characters that have to be escaped when it is written as a string again, so its length
in bytes says little about the length of that string.

* `quoted` — a text as a JSON string, `utf8ByteSize_quoted` — its length;
* `windows` — a text cut into the longest pieces of at most so many bytes, without cutting a
  character: `windows_of_fits`, `windows_append_of_full`, `flatten_windows`.
-/

namespace JsonText

open String (utf8Len)

/-! ## Strings

The escapes are those of serde_json: quotes, the backslash and control characters, the latter by a
short escape or by their number. -/

/-- What a character of a JSON string is written as. -/
def escapeChar (c : Char) : List Char :=
  if c = '"' then ['\\', '"']
  else if c = '\\' then ['\\', '\\']
  else if c = '\n' then ['\\', 'n']
  else if c = '\r' then ['\\', 'r']
  else if c = '\t' then ['\\', 't']
  else if c.toNat = 8 then ['\\', 'b']
  else if c.toNat = 12 then ['\\', 'f']
  else if c.toNat < 32 then
    ['\\', 'u', '0', '0', Nat.digitChar (c.toNat / 16), Nat.digitChar (c.toNat % 16)]
  else [c]

/-- Characters of a JSON string. -/
def escape (chars : List Char) : List Char := chars.flatMap escapeChar

/-- A text as a JSON string. -/
def quoted (text : String) : String := "\"" ++ String.ofList (escape text.toList) ++ "\""

/-- The bytes of a text between the quotes. -/
def escapedSize (text : String) : Nat := utf8Len (escape text.toList)

/-- A string takes its escaped bytes and the two quotes. -/
theorem utf8ByteSize_quoted (text : String) : (quoted text).utf8ByteSize = escapedSize text + 2 := by
  have hquote : "\"".utf8ByteSize = 1 := by decide
  rw [quoted, String.utf8ByteSize_append, String.utf8ByteSize_append, hquote, escapedSize,
    ← String.utf8ByteSize_ofList]
  omega

theorem escape_append (chars more : List Char) :
    escape (chars ++ more) = escape chars ++ escape more :=
  List.flatMap_append

theorem escapedSize_append (text more : String) :
    escapedSize (text ++ more) = escapedSize text + escapedSize more := by
  rw [escapedSize, String.toList_append, escape_append, String.utf8Len_append, escapedSize,
    escapedSize]

/-- The longest escape, the number of a control character, is far below this. -/
theorem utf8Len_escapeChar_le (c : Char) : utf8Len (escapeChar c) ≤ 24 := by
  have hchars : ∀ chars : List Char, utf8Len chars ≤ 4 * chars.length := by
    intro chars
    induction chars with
    | nil => exact le_rfl
    | cons c chars ih =>
      have hone := c.utf8Size_le_four
      rw [String.utf8Len_cons, List.length_cons]
      omega
  have hlength : (escapeChar c).length ≤ 6 := by
    rw [escapeChar]
    repeat' split
    all_goals simp
  exact (hchars _).trans (Nat.mul_le_mul_left 4 hlength)

/-- Escaping takes a bounded factor. -/
theorem escapedSize_le (text : String) : escapedSize text ≤ 24 * text.utf8ByteSize := by
  rw [escapedSize, ← String.utf8Len_toList]
  induction text.toList with
  | nil => exact le_rfl
  | cons c chars ih =>
    have hone := utf8Len_escapeChar_le c
    have hpos := c.utf8Size_pos
    rw [escape, List.flatMap_cons, String.utf8Len_append, ← escape, String.utf8Len_cons]
    omega

/-- A repeated character takes its own escaped length each time. -/
theorem utf8Len_escape_replicate (n : Nat) (c : Char) :
    utf8Len (escape (List.replicate n c)) = n * utf8Len (escapeChar c) := by
  induction n with
  | zero => rw [Nat.zero_mul]; rfl
  | succ n ih =>
    rw [List.replicate_succ, escape, List.flatMap_cons, String.utf8Len_append, ← escape, ih,
      Nat.succ_mul, Nat.add_comm]

/-- A text that is JSON already may be written as a string again. -/
theorem utf8Len_escape_escape_replicate (n : Nat) (c : Char) :
    utf8Len (escape (escape (List.replicate n c))) = n * utf8Len (escape (escapeChar c)) := by
  induction n with
  | zero => rw [Nat.zero_mul]; rfl
  | succ n ih =>
    have hone : escape [c] = escapeChar c := List.append_nil _
    rw [List.replicate_succ, ← List.singleton_append, escape_append, escape_append,
      String.utf8Len_append, ih, hone, Nat.succ_mul, Nat.add_comm]

/-! ## Numbers -/

theorem utf8Size_of_isDigit {c : Char} (h : c.isDigit = true) : c.utf8Size = 1 := by
  rw [Char.isDigit, Bool.and_eq_true, decide_eq_true_eq, decide_eq_true_eq] at h
  have hnine : (57 : UInt32) ≤ 0x7f := by decide
  have hle : c.val ≤ 0x7f := UInt32.le_trans h.2 hnine
  exact if_pos hle

theorem utf8Len_of_digits {chars : List Char} (h : ∀ c ∈ chars, c.isDigit = true) :
    utf8Len chars = chars.length := by
  induction chars with
  | nil => rfl
  | cons c chars ih =>
    rw [String.utf8Len_cons, ih (fun c' hc' => h c' (List.mem_cons_of_mem c hc')),
      utf8Size_of_isDigit (h c List.mem_cons_self), List.length_cons]

/-- Numbers take a byte for each digit. -/
theorem utf8ByteSize_repr (n : Nat) : n.repr.utf8ByteSize = n.repr.length := by
  rw [← String.utf8Len_toList, utf8Len_of_digits, String.length_toList]
  intro c hc
  rw [Nat.toList_repr] at hc
  exact Nat.isDigit_of_mem_toDigits (by decide) (by decide) hc

/-! ## Pieces

A piece is grown character by character as long as it keeps within its budget. A character takes up
to four bytes, so with a smaller budget there may be nothing to cut off. -/

/-- The longest beginning of at most so many bytes. -/
def takeBytes : Nat → List Char → List Char
  | _, [] => []
  | budget, c :: chars =>
    if c.utf8Size ≤ budget then c :: takeBytes (budget - c.utf8Size) chars else []

/-- A text within the budget is taken whole. -/
theorem takeBytes_of_fits {chars : List Char} {budget : Nat} (h : utf8Len chars ≤ budget) :
    takeBytes budget chars = chars := by
  induction chars generalizing budget with
  | nil => rfl
  | cons c chars ih =>
    rw [String.utf8Len_cons] at h
    rw [takeBytes, if_pos (by omega), ih (by omega)]

theorem takeBytes_ne_nil {chars : List Char} {budget : Nat} (hbudget : 4 ≤ budget)
    (h : chars ≠ []) : takeBytes budget chars ≠ [] := by
  cases chars with
  | nil => exact absurd rfl h
  | cons c chars =>
    rw [takeBytes, if_pos (c.utf8Size_le_four.trans hbudget)]
    exact List.cons_ne_nil _ _

/-- A text cut into such pieces, as long as there is something to cut. -/
def windows (budget : Nat) (chars : List Char) : List (List Char) :=
  if takeBytes budget chars = [] then []
  else takeBytes budget chars :: windows budget (chars.drop (takeBytes budget chars).length)
termination_by chars.length
decreasing_by
  rename_i hne
  have hpos := List.length_pos_of_ne_nil hne
  have hchars : chars ≠ [] := by
    rintro rfl
    exact hne rfl
  have hlen := List.length_pos_of_ne_nil hchars
  rw [List.length_drop]
  omega

theorem windows_of_fits {chars : List Char} {budget : Nat} (hne : chars ≠ [])
    (h : utf8Len chars ≤ budget) : windows budget chars = [chars] := by
  rw [windows, takeBytes_of_fits h, if_neg hne, List.drop_length, windows]
  rfl

/-- A beginning that fills the budget exactly. -/
theorem takeBytes_append_of_full {chars more : List Char} {budget : Nat}
    (h : utf8Len chars = budget) : takeBytes budget (chars ++ more) = chars := by
  induction chars generalizing budget with
  | nil =>
    subst h
    cases more with
    | nil => rfl
    | cons c more => exact if_neg (Nat.not_le.mpr c.utf8Size_pos)
  | cons c chars ih =>
    rw [String.utf8Len_cons] at h
    rw [List.cons_append, takeBytes, if_pos (by omega), ih (by omega)]

/-- **A full piece** is cut off, and the rest is cut by itself. -/
theorem windows_append_of_full {chars more : List Char} {budget : Nat} (hne : chars ≠ [])
    (h : utf8Len chars = budget) :
    windows budget (chars ++ more) = chars :: windows budget more := by
  rw [windows, takeBytes_append_of_full h, if_neg hne, List.drop_left]

/-- What is cut off and what is left make the text. -/
theorem takeBytes_append_drop (budget : Nat) (chars : List Char) :
    takeBytes budget chars ++ chars.drop (takeBytes budget chars).length = chars := by
  induction chars generalizing budget with
  | nil => rfl
  | cons c chars ih =>
    rw [takeBytes]
    split
    · rw [List.length_cons, List.drop_succ_cons, List.cons_append, ih]
    · rfl

/-- **The pieces** together are the text, if a piece has room for a character. -/
theorem flatten_windows {budget : Nat} (hbudget : 4 ≤ budget) (chars : List Char) :
    (windows budget chars).flatten = chars := by
  fun_induction windows budget chars with
  | case1 chars hnone =>
    have hchars : chars = [] := by
      by_contra hne
      exact takeBytes_ne_nil hbudget hne hnone
    rw [hchars]
    rfl
  | case2 chars hsome ih => rw [List.flatten_cons, ih, takeBytes_append_drop]

end JsonText
