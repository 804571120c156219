import Mathlib.Data.List.Basic

/-!
# Numbers and paths as texts

Integers in decimal, and paths of segments with slashes before them.

1. `Decimal.parse_print`: an integer is read back from its decimal text.
2. `Path.segments_join`: the segments are read back from the path.
-/

/-! ## Decimal numbers -/

namespace Decimal

/-- The decimal digits of an integer, after a minus sign if it is negative. -/
def print : Int → List Char
  | .ofNat n => Nat.toDigits 10 n
  | .negSucc n => '-' :: Nat.toDigits 10 (n + 1)

/-- The number that decimal digits stand for. At least one digit is needed. -/
def parseNat (text : List Char) : Option Nat :=
  if text ≠ [] ∧ text.all Char.isDigit then some (Nat.ofDigitChars 10 text 0) else none

/-- The integer that decimal digits stand for, with an optional sign before them. -/
def parse : List Char → Option Int
  | '-' :: text => (parseNat text).map fun n => -(n : Int)
  | '+' :: text => (parseNat text).map Int.ofNat
  | text => (parseNat text).map Int.ofNat

theorem isDigit_of_mem_digits {n : Nat} {c : Char} (h : c ∈ Nat.toDigits 10 n) :
    c.isDigit = true :=
  Nat.isDigit_of_mem_toDigits (by decide) (by decide) h

theorem parseNat_digits (n : Nat) : parseNat (Nat.toDigits 10 n) = some n := by
  have hall : (Nat.toDigits 10 n).all Char.isDigit = true :=
    List.all_eq_true.mpr fun c hc => isDigit_of_mem_digits hc
  rw [parseNat, if_pos ⟨Nat.toDigits_ne_nil, hall⟩, Nat.ofDigitChars_ten_toDigits]

theorem parse_print (n : Int) : parse (print n) = some n := by
  cases n with
  | negSucc n =>
    rw [print, parse, parseNat_digits]
    rfl
  | ofNat n =>
    have hparse := parseNat_digits n
    have hdigit : ∀ c, c ∈ Nat.toDigits 10 n → c.isDigit = true :=
      fun c hc => isDigit_of_mem_digits hc
    show parse (Nat.toDigits 10 n) = _
    unfold parse
    -- The text starts with a digit, so neither sign is read off it.
    split
    · next text htext =>
      rw [htext] at hdigit
      exact absurd (hdigit '-' List.mem_cons_self) (by decide)
    · next text htext =>
      rw [htext] at hdigit
      exact absurd (hdigit '+' List.mem_cons_self) (by decide)
    · rw [hparse]
      rfl

/-- What is neither a digit nor a minus sign does not occur in a decimal text. -/
theorem not_mem_print {c : Char} (hdigit : c.isDigit = false) (hsign : c ≠ '-') (n : Int) :
    c ∉ print n := by
  intro hc
  have hnot : ∀ n, c ∉ Nat.toDigits 10 n := by
    intro n hmem
    rw [isDigit_of_mem_digits hmem] at hdigit
    cases hdigit
  cases n with
  | ofNat n => exact hnot n hc
  | negSucc n =>
    obtain rfl | hmem := List.mem_cons.mp hc
    · exact hsign rfl
    · exact hnot (n + 1) hmem

end Decimal

/-! ## Paths -/

namespace Path

/-- Each segment with a slash before it. -/
def join (segments : List (List Char)) : List Char :=
  segments.flatMap fun segment => '/' :: segment

/-- The segments of a path that starts with a slash. -/
def segments (path : List Char) : List (List Char) := (path.splitOn '/').tail

theorem splitOn_join {first : List Char} {rest : List (List Char)} (hfirst : '/' ∉ first)
    (hrest : ∀ segment, segment ∈ rest → '/' ∉ segment) :
    (first ++ join rest).splitOn '/' = first :: rest := by
  induction rest generalizing first with
  | nil =>
    show (first ++ []).splitOn '/' = [first]
    rw [List.append_nil]
    exact List.splitOn_eq_singleton hfirst
  | cons segment rest ih =>
    show (first ++ '/' :: (segment ++ join rest)).splitOn '/' = _
    rw [List.splitOn_append_cons_self_of_not_mem hfirst, ih (hrest segment List.mem_cons_self)
      fun other hother => hrest other (List.mem_cons_of_mem segment hother)]

theorem segments_join {path : List (List Char)} (h : ∀ segment, segment ∈ path → '/' ∉ segment) :
    segments (join path) = path :=
  congrArg List.tail (splitOn_join List.not_mem_nil h)

end Path
