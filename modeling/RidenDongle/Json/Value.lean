import Mathlib.Data.List.Basic

/-!
# JSON values

The values that a JSON text stands for, over a type of numbers.
-/

namespace RidenDongle

/-- A value that `JSON.parse` returns, over the numbers `ν`. -/
inductive Json (ν : Type) where
  | null
  | bool (b : Bool)
  | number (x : ν)
  | string (s : String)
  | array (elements : List (Json ν))
  | object (properties : List (String × Json ν))

namespace Json

variable {ν μ : Type}

mutual

/-- The value with each number read as another. -/
def map (f : ν → μ) : Json ν → Json μ
  | null => null
  | bool b => bool b
  | number x => number (f x)
  | string s => string s
  | array es => array (mapElements f es)
  | object ps => object (mapProperties f ps)

def mapElements (f : ν → μ) : List (Json ν) → List (Json μ)
  | [] => []
  | v :: vs => map f v :: mapElements f vs

def mapProperties (f : ν → μ) : List (String × Json ν) → List (String × Json μ)
  | [] => []
  | (name, v) :: ps => (name, map f v) :: mapProperties f ps

end

theorem lookup_mapProperties (f : ν → μ) (name : String) (ps : List (String × Json ν)) :
    (mapProperties f ps).lookup name = (ps.lookup name).map (map f) := by
  induction ps with
  | nil => rfl
  | cons p ps ih =>
    rw [mapProperties, List.lookup_cons, List.lookup_cons, ih]
    cases name == p.1 <;> rfl

end Json

end RidenDongle
