import DeviceAuth.Field.Basic

/-!
**Values of polynomials at roots of unity.** `transform` takes the coefficients of a polynomial to
its values at the powers of a root of unity, `interpolate` takes the values back. Both split a list
into its entries at even and at odd places, transform the halves at the square of the root, and join
them.
-/

namespace DeviceAuth

/-- How many powers a root of unity of order `2 ^ exponent` has. -/
def domainSize (exponent : Nat) : Nat :=
  Nat.pow 2 exponent

/-- A root of unity of order `2 ^ exponent`, for exponents up to 28. -/
def rootOfUnity (exponent : Nat) : Scalar :=
  power 1 5 ((scalarModulus - 1) / domainSize exponent)

/-- The first `count` powers of an element, times a factor. -/
def powersFrom (factor base : Scalar) : (count : Nat) → List Scalar
  | 0 => []
  | count + 1 => factor :: powersFrom (factor * base) base count

/-- The entries at even places and those at odd places. -/
def alternate {α : Type} : List α → List α × List α
  | [] => ([], [])
  | first :: rest =>
    let (others, own) := alternate rest
    (first :: own, others)

theorem length_alternate {α : Type} (entries : List α) :
    (alternate entries).1.length = (entries.length + 1) / 2 ∧
      (alternate entries).2.length = entries.length / 2 := by
  induction entries with
  | nil => simp [alternate]
  | cons first rest ih =>
    simp only [alternate, List.length_cons]
    omega

/-- The values at the powers of `root` of the polynomial with these coefficients, of which there are
as many as `root` has powers. -/
def transform (root : Scalar) : List Scalar → List Scalar
  | [] => []
  | [constant] => [constant]
  | first :: second :: rest =>
    let halves := alternate (first :: second :: rest)
    let even := transform (root * root) halves.1
    let odd := transform (root * root) halves.2
    let turned := (powersFrom 1 root odd.length).zipWith (· * ·) odd
    even.zipWith (· + ·) turned ++ even.zipWith (· - ·) turned
termination_by coefficients => coefficients.length
decreasing_by
  all_goals
    have lengths := length_alternate (first :: second :: rest)
    simp only [List.length_cons] at lengths ⊢
    omega

/-- The coefficients of the polynomial with these values at the powers of `root`. -/
def interpolate (root : Scalar) (values : List Scalar) : List Scalar :=
  let scale := (Scalar.ofNat values.length).inverse
  (transform root.inverse values).map (scale * ·)

/-- The coefficients of `p (factor · X)` from those of `p`. -/
def stretch (factor : Scalar) (coefficients : List Scalar) : List Scalar :=
  (powersFrom 1 factor coefficients.length).zipWith (· * ·) coefficients

end DeviceAuth
