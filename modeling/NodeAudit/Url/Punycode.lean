/-!
# Punycode

Labels outside ASCII in letters, digits and hyphens. The ASCII characters of a label come first; the
others follow in the order of their code points, each as the distance from the one before in a
number whose digits have base 36 and thresholds that adapt to the label.

* `encodeDigits` ends because each threshold is at least one, so the rest shrinks;
* `decodeDigits` and `decodeAll` read the label once.
-/

namespace NodeAudit.Url.Punycode

/-! ## Digits -/

/-- The character of a digit below 36. -/
def digitChar (d : Nat) : Char :=
  if d < 26 then Char.ofNat (97 + d) else Char.ofNat (22 + d)

/-- The value of a digit, in either case of letters. -/
def digitValue? (c : Char) : Option Nat :=
  let n := c.toNat
  if 97 ≤ n ∧ n ≤ 122 then some (n - 97)
  else if 65 ≤ n ∧ n ≤ 90 then some (n - 65)
  else if 48 ≤ n ∧ n ≤ 57 then some (n - 22)
  else none

/-- The threshold of the digit at a place, places counting in steps of 36. -/
def threshold (place bias : Nat) : Nat :=
  if place ≤ bias then 1 else if bias + 26 ≤ place then 26 else place - bias

theorem threshold_pos (place bias : Nat) : 1 ≤ threshold place bias := by
  unfold threshold; split <;> (try split) <;> omega

/-- Divide until the thresholds fit the distance; each division moves them by 36. -/
def settle (delta moved : Nat) : Nat :=
  if 455 < delta then settle (delta / 35) (moved + 36) else moved + 36 * delta / (delta + 38)
termination_by delta
decreasing_by exact Nat.div_lt_self (by omega) (by omega)

/-- The bias after a distance, with `count` characters placed. -/
def adapt (delta count : Nat) (isFirst : Bool) : Nat :=
  let scaled := if isFirst then delta / 700 else delta / 2
  settle (scaled + scaled / count) 0

/-! ## Writing -/

/-- A distance as digits from the given place on. -/
def encodeDigits (bias place q : Nat) : List Char :=
  let t := threshold place bias
  if q < t then [digitChar q]
  else digitChar (t + (q - t) % (36 - t)) :: encodeDigits bias (place + 36) ((q - t) / (36 - t))
termination_by q
decreasing_by
  have := threshold_pos place bias
  have := Nat.div_le_self (q - threshold place bias) (36 - threshold place bias)
  omega

/-- Where a writer is: the text, the distance so far, and how many characters are placed. -/
structure Writing where
  text : List Char
  delta : Nat
  bias : Nat
  placed : Nat
  isFirst : Bool

/-- Pass one character of the label while the characters with code point `n` are placed. -/
def Writing.pass (n : Nat) (w : Writing) (c : Char) : Writing :=
  if c.toNat < n then { w with delta := w.delta + 1 }
  else if c.toNat = n then
    { text := w.text ++ encodeDigits w.bias 36 w.delta, delta := 0,
      bias := adapt w.delta (w.placed + 1) w.isFirst, placed := w.placed + 1, isFirst := false }
  else w

/-- Place the characters with the given code points, in increasing order; `next` is the least code
point that may come. -/
def encodeAll (label : List Char) : List Nat → Nat → Writing → Writing
  | [], _, w => w
  | n :: ns, next, w =>
    let passed := label.foldl (Writing.pass n)
      { w with delta := w.delta + (n - next) * (w.placed + 1) }
    encodeAll label ns (n + 1) { passed with delta := passed.delta + 1 }

/-- Put a code point into an increasing list without repetitions. -/
def insertOnce (n : Nat) : List Nat → List Nat
  | [] => [n]
  | m :: ms => if n < m then n :: m :: ms else if n = m then m :: ms else m :: insertOnce n ms

/-- A label in Punycode. -/
def encode (label : List Char) : List Char :=
  let ascii := label.filter (·.toNat < 128)
  let others := (label.filter (128 ≤ ·.toNat)).foldr (fun c ns => insertOnce c.toNat ns) []
  let start := if ascii.isEmpty then [] else ascii ++ ['-']
  (encodeAll label others 128
    { text := start, delta := 0, bias := 72, placed := ascii.length, isFirst := true }).text

/-! ## Reading -/

/-- Read a distance: its value and the characters after it. -/
def decodeDigits (bias : Nat) : (place weight sum : Nat) → List Char → Option (Nat × List Char)
  | _, _, _, [] => none
  | place, weight, sum, c :: cs =>
    match digitValue? c with
    | none => none
    | some d =>
      let t := threshold place bias
      if d < t then some (sum + d * weight, cs)
      else decodeDigits bias (place + 36) (weight * (36 - t)) (sum + d * weight) cs

theorem decodeDigits_length_lt {bias : Nat} : ∀ {place weight sum : Nat} {cs rest : List Char}
    {v : Nat}, decodeDigits bias place weight sum cs = some (v, rest) → rest.length < cs.length
  | _, _, _, [], _, _, h => by simp [decodeDigits] at h
  | place, weight, sum, c :: cs, rest, v, h => by
    rw [decodeDigits] at h
    split at h
    · simp at h
    · rename_i d _
      dsimp only at h
      split at h
      · simp only [Option.some.injEq, Prod.mk.injEq] at h
        simp [h.2]
      · have := decodeDigits_length_lt h
        simp only [List.length_cons]; omega

/-- Place the characters whose distances follow. `position` is where the last one was placed, one
further, and `code` its code point. -/
def decodeAll (placed : List Char) (position code bias : Nat) (isFirst : Bool) (cs : List Char) :
    Option (List Char) :=
  if cs.isEmpty then some placed
  else
    match h : decodeDigits bias 36 1 0 cs with
    | none => none
    | some (delta, rest) =>
      have : rest.length < cs.length := decodeDigits_length_lt h
      let count := placed.length + 1
      let code := code + (position + delta) / count
      let position := (position + delta) % count
      if code.isValidChar then
        decodeAll (placed.take position ++ Char.ofNat code :: placed.drop position) (position + 1)
          code (adapt delta count isFirst) false rest
      else none
termination_by cs.length

/-- The label that a text in Punycode writes. A hyphen ends the ASCII characters only if there are
some. -/
def decode? (cs : List Char) : Option (List Char) :=
  let tail := (cs.reverse.takeWhile (· != '-')).reverse
  let ascii := cs.take (cs.length - tail.length - 1)
  if ascii.all (·.toNat < 128) then
    decodeAll ascii 0 128 72 true (if ascii.isEmpty then cs else tail)
  else none

end NodeAudit.Url.Punycode
