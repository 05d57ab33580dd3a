import TlsInterop.Py.Text

/-!
# Reading the output of a program

What is read from a pipe is decoded with `bytes.decode(errors="replace")` and
searched with regular expressions that ignore case.  A search tries the positions
from the left, and at each position the alternatives in the order of a
backtracking matcher.

## Main definitions

* `decodeReplace` — UTF-8, each malformed part replaced by U+FFFD.
* `Regex`, `Regex.«matches»` — an expression and its matches at a position, best first.
* `Regex.search`, `Regex.count` — `re.search` and the length of `re.findall`.
* `countOf` — `str.count`.
-/

namespace Py

/-! ### Decoding -/

/-- The replacement character. -/
def replacement : Char := Char.ofNat 0xFFFD

/-- A continuation byte. -/
def isContinuation (b : UInt8) : Bool := 0x80 ≤ b && b ≤ 0xBF

/-- The second bytes that may follow a first byte: neither overlong forms, nor
surrogates, nor what lies beyond Unicode. -/
def isSecondByte (first b : UInt8) : Bool :=
  if first = 0xE0 then 0xA0 ≤ b && b ≤ 0xBF
  else if first = 0xED then 0x80 ≤ b && b ≤ 0x9F
  else if first = 0xF0 then 0x90 ≤ b && b ≤ 0xBF
  else if first = 0xF4 then 0x80 ≤ b && b ≤ 0x8F
  else isContinuation b

/-- The six value bits of each continuation byte, after those of the first byte. -/
def scalar (first : ℕ) (rest : List UInt8) : Char :=
  Char.ofNat (rest.foldl (fun n b => n * 64 + (b.toNat - 0x80)) first)

/-- `bytes.decode(errors="replace")`, as characters: the longest part that could
have begun a character is replaced as a whole. -/
def decodeReplaceL : List UInt8 → List Char
  | [] => []
  | b :: bs =>
    if b < 0x80 then Char.ofNat b.toNat :: decodeReplaceL bs
    else if b < 0xC2 || 0xF4 < b then replacement :: decodeReplaceL bs
    else match bs with
      | [] => [replacement]
      | c :: cs =>
        if !isSecondByte b c then replacement :: decodeReplaceL (c :: cs)
        else if b < 0xE0 then scalar (b.toNat - 0xC0) [c] :: decodeReplaceL cs
        else match cs with
          | [] => [replacement]
          | d :: ds =>
            if !isContinuation d then replacement :: decodeReplaceL (d :: ds)
            else if b < 0xF0 then scalar (b.toNat - 0xE0) [c, d] :: decodeReplaceL ds
            else match ds with
              | [] => [replacement]
              | e :: es =>
                if !isContinuation e then replacement :: decodeReplaceL (e :: es)
                else scalar (b.toNat - 0xF0) [c, d, e] :: decodeReplaceL es

/-- `bytes.decode(errors="replace")`. -/
def decodeReplace (bytes : List UInt8) : String := String.ofList (decodeReplaceL bytes)

example : decodeReplace [0x61, 0xC3, 0xA9, 0xE2, 0x82, 0x62, 0xFF] = "aé\uFFFDb\uFFFD" := by decide

theorem isContinuation_of_isSecondByte {b x : UInt8} (h : isSecondByte b x = true) :
    isContinuation x = true := by
  unfold isSecondByte at h
  unfold isContinuation at *
  split_ifs at h <;> simp only [Bool.and_eq_true, decide_eq_true_eq] at h ⊢ <;>
    simp only [UInt8.le_iff_toNat_le] at * <;> simp at * <;> omega

theorem isSecondByte_of_not {b x : UInt8} (h : isContinuation x = false) :
    isSecondByte b x = false :=
  Bool.eq_false_iff.mpr fun hs => by
    rw [isContinuation_of_isSecondByte hs] at h
    cases h

/-- Bytes that begin with no continuation byte are decoded on their own. -/
theorem decodeReplaceL_append {l l' : List UInt8} (h : ∀ x ∈ l'.head?, isContinuation x = false) :
    decodeReplaceL (l ++ l') = decodeReplaceL l ++ decodeReplaceL l' := by
  -- only a sequence that the end of `l` breaks off looks at `l'`, where no continuation follows
  fun_induction decodeReplaceL l with
  | case1 => rfl
  | case2 b bs hb ih =>
    conv_lhs => rw [List.cons_append, decodeReplaceL.eq_def]
    simp only [hb, if_true, ih, List.cons_append]
  | case3 b bs hb hb' ih =>
    conv_lhs => rw [List.cons_append, decodeReplaceL.eq_def]
    simp [hb, hb', ← ih]
  | case4 b hb hb' =>
    conv_lhs => rw [List.cons_append, decodeReplaceL.eq_def]
    cases l' with
    | nil => simp [hb, hb', decodeReplaceL]
    | cons x xs => simp [hb, hb', isSecondByte_of_not (h x rfl)]
  | case5 b hb hb' c cs hc ih =>
    conv_lhs => rw [List.cons_append, decodeReplaceL.eq_def]
    simp [hb, hb', hc, ← ih]
  | case6 b hb hb' c cs hc hb'' ih =>
    conv_lhs => rw [List.cons_append, decodeReplaceL.eq_def]
    simp [hb, hb', hc, hb'', ← ih]
  | case7 b hb hb' c hc hb'' =>
    conv_lhs => rw [List.cons_append, decodeReplaceL.eq_def]
    cases l' with
    | nil => simp [hb, hb', hc, hb'', decodeReplaceL]
    | cons x xs => simp [hb, hb', hc, hb'', h x rfl]
  | case8 b hb hb' c hc hb'' d ds hd ih =>
    conv_lhs => rw [List.cons_append, decodeReplaceL.eq_def]
    simp [hb, hb', hc, hb'', hd, ← ih]
  | case9 b hb hb' c hc hb'' d ds hd hb₃ ih =>
    conv_lhs => rw [List.cons_append, decodeReplaceL.eq_def]
    simp [hb, hb', hc, hb'', hd, hb₃, ← ih]
  | case10 b hb hb' c hc hb'' d hd hb₃ =>
    conv_lhs => rw [List.cons_append, decodeReplaceL.eq_def]
    cases l' with
    | nil => simp [hb, hb', hc, hb'', hd, hb₃, decodeReplaceL]
    | cons x xs => simp [hb, hb', hc, hb'', hd, hb₃, h x rfl]
  | case11 b hb hb' c hc hb'' d hd hb₃ e es he ih =>
    conv_lhs => rw [List.cons_append, decodeReplaceL.eq_def]
    simp [hb, hb', hc, hb'', hd, hb₃, he, ← ih]
  | case12 b hb hb' c hc hb'' d hd hb₃ e es he ih =>
    conv_lhs => rw [List.cons_append, decodeReplaceL.eq_def]
    simp [hb, hb', hc, hb'', hd, hb₃, he, ← ih]

/-- Bytes that decode without a replacement are decoded on their own, whatever follows. -/
theorem decodeReplaceL_append_of_notMem {l : List UInt8} (h : replacement ∉ decodeReplaceL l)
    (l' : List UInt8) : decodeReplaceL (l ++ l') = decodeReplaceL l ++ decodeReplaceL l' := by
  fun_induction decodeReplaceL l with
  | case1 => rfl
  | case2 b bs hb ih =>
    conv_lhs => rw [List.cons_append, decodeReplaceL.eq_def]
    simp only [hb, if_true, ih (List.not_mem_of_not_mem_cons h), List.cons_append]
  | case6 b hb hb' c cs hc hb'' ih =>
    conv_lhs => rw [List.cons_append, decodeReplaceL.eq_def]
    simp [hb, hb', hc, hb'', ← ih (List.not_mem_of_not_mem_cons h)]
  | case9 b hb hb' c hc hb'' d ds hd hb₃ ih =>
    conv_lhs => rw [List.cons_append, decodeReplaceL.eq_def]
    simp [hb, hb', hc, hb'', hd, hb₃, ← ih (List.not_mem_of_not_mem_cons h)]
  | case12 b hb hb' c hc hb'' d hd hb₃ e es he ih =>
    conv_lhs => rw [List.cons_append, decodeReplaceL.eq_def]
    simp [hb, hb', hc, hb'', hd, hb₃, he, ← ih (List.not_mem_of_not_mem_cons h)]
  | _ => exact absurd List.mem_cons_self h

/-- A continuation byte that continues nothing is replaced. -/
theorem replacement_mem_of_isContinuation {b : UInt8} (hb : isContinuation b = true)
    (bs : List UInt8) : replacement ∈ decodeReplaceL (b :: bs) := by
  unfold isContinuation at hb
  rw [Bool.and_eq_true, decide_eq_true_eq, decide_eq_true_eq] at hb
  simp only [UInt8.le_iff_toNat_le, UInt8.reduceToNat] at hb
  have hlow : ¬ b < 0x80 := by
    simp only [UInt8.lt_iff_toNat_lt, UInt8.reduceToNat]
    omega
  have hlead : b < 0xC2 := by
    simp only [UInt8.lt_iff_toNat_lt, UInt8.reduceToNat]
    omega
  rw [decodeReplaceL.eq_def]
  simp [hlow, hlead]

/-! ### Regular expressions -/

/-- A regular expression over characters; `star` takes as much as it can when it is
greedy and as little as it can when it is not. -/
inductive Regex
  | empty
  | char (accepts : Char → Bool)
  | seq (r s : Regex)
  | alt (r s : Regex)
  | star (greedy : Bool) (r : Regex)
  | group (index : ℕ) (r : Regex)

namespace Regex

/-- What is left of the text after a match, and the text of each group. -/
structure Match where
  rest : List Char
  groups : List (ℕ × List Char)

/-- The matches of a repetition: those that take one more part, and the one that
takes none.  The fuel is the length of the text, as every part takes something. -/
def repeated (greedy : Bool) (step : List Char → List Match) : ℕ → List Char → List Match
  | 0, l => [⟨l, []⟩]
  | fuel + 1, l =>
    let more := ((step l).filter fun m => m.rest.length < l.length).flatMap fun m =>
      (repeated greedy step fuel m.rest).map fun m' => ⟨m'.rest, m.groups ++ m'.groups⟩
    if greedy then more ++ [⟨l, []⟩] else ⟨l, []⟩ :: more

/-- The matches at the start of a text, in the order of a backtracking matcher. -/
def «matches» : Regex → List Char → List Match
  | empty, l => [⟨l, []⟩]
  | char _, [] => []
  | char accepts, c :: l => if accepts c then [⟨l, []⟩] else []
  | seq r s, l => (r.matches l).flatMap fun m =>
      (s.matches m.rest).map fun m' => ⟨m'.rest, m.groups ++ m'.groups⟩
  | alt r s, l => r.matches l ++ s.matches l
  | star greedy r, l => repeated greedy r.matches l.length l
  | group index r, l => (r.matches l).map fun m =>
      ⟨m.rest, (index, l.take (l.length - m.rest.length)) :: m.groups⟩

/-- The first match, from the left. -/
def searchL (r : Regex) : List Char → Option Match
  | [] => (r.matches []).head?
  | c :: l => (r.matches (c :: l)).head?.or (r.searchL l)

/-- `re.search`: the text of each group of the first match. -/
def search (r : Regex) (text : String) : Option (ℕ → String) :=
  (r.searchL text.toList).map fun m index =>
    String.ofList (((m.groups.find? fun g => g.1 = index).map Prod.snd).getD [])

/-- `bool(re.search(..))`. -/
def found (r : Regex) (text : String) : Bool := (r.searchL text.toList).isSome

/-- The number of successive matches; the fuel is the length of the text. -/
def countL (r : Regex) : ℕ → List Char → ℕ
  | 0, _ => 0
  | fuel + 1, l =>
    match r.searchL l with
    | none => 0
    | some m => 1 + r.countL fuel (if m.rest.length < l.length then m.rest else l.tail)

/-- `len(re.findall(..))`, for an expression that matches no empty text. -/
def count (r : Regex) (text : String) : ℕ := r.countL text.length text.toList

/-! ### Building blocks -/

/-- The character a case-insensitive comparison looks at: its lower case, where the
dotless i counts as an i and the long s as an s. -/
def foldChar (c : Char) : Char :=
  if c.toNat = 305 then 'i'
  else if c.toNat = 383 then 's'
  else (lowerChar c).headD c

/-- A text, whatever its case. -/
def text (s : String) : Regex :=
  s.toList.foldr (fun c r => seq (char fun x => foldChar x == foldChar c) r) empty

/-- `\s`. -/
def space : Regex := char isSpace

/-- `\S`. -/
def nonSpace : Regex := char fun c => !isSpace c

/-- `[\d.]`. -/
def versionChar : Regex := char fun c => (digitVal c).isSome || c == '.'

/-- Any character but the given one. -/
def noneOf (c : Char) : Regex := char fun x => x != c

/-- `r*`. -/
def many (r : Regex) : Regex := star true r

/-- `r+`. -/
def some1 (r : Regex) : Regex := seq r (many r)

/-- One after the other. -/
def all (rs : List Regex) : Regex := rs.foldr seq empty

/-- The first alternative that leads to a match. -/
def any : List Regex → Regex
  | [] => char fun _ => false
  | [r] => r
  | r :: rs => alt r (any rs)

end Regex

/-! ### Counting a text -/

/-- The number of occurrences of `needle` that do not overlap. -/
def countOfL (needle : List Char) : ℕ → List Char → ℕ
  | 0, _ => 0
  | _ + 1, [] => 0
  | fuel + 1, c :: l =>
    if needle.isPrefixOf (c :: l) then 1 + countOfL needle fuel ((c :: l).drop needle.length)
    else countOfL needle fuel l

/-- `s.count(needle)`, for a needle that is not empty. -/
def countOf (needle s : String) : ℕ := countOfL needle.toList s.length s.toList

end Py
