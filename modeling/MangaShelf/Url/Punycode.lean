/-!
# Punycode

A domain label with letters beyond ASCII as a label of ASCII letters and digits.
-/

namespace MangaShelf.Url

/-- The digit of a number below 36: the letters first. -/
def punycodeDigit (n : Nat) : Char :=
  if n < 26 then Char.ofNat (97 + n) else Char.ofNat (22 + n)

/-- The threshold of the digit at place `k` (a multiple of 36). -/
def punycodeThreshold (k bias : Nat) : Nat :=
  if k ≤ bias then 1 else if bias + 26 ≤ k then 26 else k - bias

/-- A number in digits of growing place `k`; the fuel bounds their count. -/
def punycodeNumber (bias : Nat) : Nat → Nat → Nat → List Char
  | 0, _, _ => []
  | fuel + 1, k, q =>
    let t := punycodeThreshold k bias
    if q < t then [punycodeDigit q]
    else
      punycodeDigit (t + (q - t) % (36 - t)) ::
        punycodeNumber bias fuel (k + 36) ((q - t) / (36 - t))

/-- Halve a difference down to the last place; yields the next bias. -/
def punycodeSettle : Nat → Nat → Nat → Nat
  | 0, k, delta => k + 36 * delta / (delta + 38)
  | fuel + 1, k, delta =>
    if 455 < delta then punycodeSettle fuel (k + 36) (delta / 35) else k + 36 * delta / (delta + 38)

/-- The bias after a difference has been written as the first one or as a later one. -/
def punycodeAdapt (delta count : Nat) (first : Bool) : Nat :=
  let delta := if first then delta / 700 else delta / 2
  punycodeSettle 32 0 (delta + delta / count)

/-- The state between two written differences. -/
structure PunycodeState where
  delta : Nat
  bias : Nat
  written : Nat
  digits : List Char

/-- Pass over the label for the code point `n`: each smaller one counts, each `n` is written. -/
def punycodePass (basic n : Nat) (st : PunycodeState) : List Nat → PunycodeState
  | [] => { st with delta := st.delta + 1 }
  | c :: cs =>
    if c < n then punycodePass basic n { st with delta := st.delta + 1 } cs
    else if c = n then
      punycodePass basic n
        { delta := 0
          bias := punycodeAdapt st.delta (st.written + 1) (st.written == basic)
          written := st.written + 1
          digits := st.digits ++ punycodeNumber st.bias 32 36 st.delta } cs
    else punycodePass basic n st cs

/-- Write all code points from `n` on, the least one first. -/
def punycodeLoop (basic : Nat) (codes : List Nat) : Nat → Nat → PunycodeState → List Char
  | 0, _, st => st.digits
  | fuel + 1, n, st =>
    match (codes.filter (n ≤ ·)).min? with
    | none => st.digits
    | some m =>
      let st := { st with delta := st.delta + (m - n) * (st.written + 1) }
      punycodeLoop basic codes fuel (m + 1) (punycodePass basic m st codes)

/-- A label in Punycode, without its mark. -/
def punycode (label : List Char) : List Char :=
  let basic := label.filter (·.toNat < 128)
  let start := if basic.isEmpty then [] else basic ++ ['-']
  punycodeLoop basic.length (label.map Char.toNat) (label.length + 1) 128
    ⟨0, 72, basic.length, start⟩

/-- A label as it stands in a domain name. -/
def asciiLabel (label : List Char) : List Char :=
  if label.all (·.toNat < 128) then label else "xn--".toList ++ punycode label

end MangaShelf.Url
