import RidenDongle.Json.Value
import Mathlib.Data.List.Nodup

/-!
# JSON texts

A parser for JSON texts, which leaves each number as it is spelled, and a printer.

* `scanNumber`, `scanString`: the scanners of numbers and strings, which return what is left.
* `value`: the parser, with fuel; `parse`: the text of one value.
* `print`, and `parse_print`: what is printed is parsed back.

A name that comes again in an object replaces the value. Of the escapes for parts of a
character (surrogates) none is parsed.
-/

namespace RidenDongle

namespace Json

/-! ## Scanners -/

def isBlank (c : Char) : Bool := c = ' ' || c = '\t' || c = '\n' || c = '\r'

def skipBlanks (cs : List Char) : List Char := cs.dropWhile isBlank

/-- The minus sign, if there is one. -/
def scanMinus : List Char → List Char × List Char
  | '-' :: cs => (['-'], cs)
  | cs => ([], cs)

/-- The integer part: no digit follows a leading zero. -/
def scanInteger : List Char → Option (List Char × List Char)
  | [] => none
  | '0' :: cs => some (['0'], cs)
  | c :: cs =>
    if c.isDigit then some (c :: cs.takeWhile Char.isDigit, cs.dropWhile Char.isDigit) else none

/-- The fraction, if there is one. -/
def scanFraction : List Char → Option (List Char × List Char)
  | '.' :: cs =>
    if cs.takeWhile Char.isDigit = [] then none
    else some ('.' :: cs.takeWhile Char.isDigit, cs.dropWhile Char.isDigit)
  | cs => some ([], cs)

/-- The sign of an exponent, if there is one. -/
def scanSign : List Char → List Char × List Char
  | '-' :: cs => (['-'], cs)
  | '+' :: cs => (['+'], cs)
  | cs => ([], cs)

/-- The exponent, if there is one. -/
def scanExponent : List Char → Option (List Char × List Char)
  | [] => some ([], [])
  | c :: cs =>
    if c = 'e' ∨ c = 'E' then
      let signed := scanSign cs
      if signed.2.takeWhile Char.isDigit = [] then none
      else some (c :: signed.1 ++ signed.2.takeWhile Char.isDigit,
        signed.2.dropWhile Char.isDigit)
    else some ([], c :: cs)

/-- A number, as it is spelled. -/
def scanNumber (cs : List Char) : Option (List Char × List Char) := do
  let s := scanMinus cs
  let i ← scanInteger s.2
  let f ← scanFraction i.2
  let e ← scanExponent f.2
  some (s.1 ++ i.1 ++ f.1 ++ e.1, e.2)

def hexDigit (c : Char) : Option ℕ :=
  if c.isDigit then some (c.toNat - 48)
  else if 'a' ≤ c ∧ c ≤ 'f' then some (c.toNat - 87)
  else if 'A' ≤ c ∧ c ≤ 'F' then some (c.toNat - 55)
  else none

/-- The character of the four hexadecimal digits. -/
def unicode (a b c d : Char) : Option Char := do
  let n := (← hexDigit a) * 4096 + (← hexDigit b) * 256 + (← hexDigit c) * 16 + (← hexDigit d)
  if n < 0xD800 ∨ 0xDFFF < n then some (Char.ofNat n) else none

/-- The character of an escape of one letter. -/
def escaped : Char → Option Char
  | '"' => some '"'
  | '\\' => some '\\'
  | '/' => some '/'
  | 'b' => some '\x08'
  | 'f' => some '\x0c'
  | 'n' => some '\n'
  | 'r' => some '\r'
  | 't' => some '\t'
  | _ => none

/-- The characters of a string, behind the first quotation mark. -/
def scanString : List Char → Option (List Char × List Char)
  | [] => none
  | '"' :: cs => some ([], cs)
  | '\\' :: 'u' :: a :: b :: c :: d :: cs => do
    let x ← unicode a b c d
    let r ← scanString cs
    some (x :: r.1, r.2)
  | '\\' :: c :: cs => do
    let x ← escaped c
    let r ← scanString cs
    some (x :: r.1, r.2)
  | c :: cs =>
    if c.toNat < 32 then none
    else do
      let r ← scanString cs
      some (c :: r.1, r.2)

/-! ## The parser -/

/-- The properties with `name` set to `v`. -/
def assign {ν : Type} (name : String) (v : Json ν) : List (String × Json ν) → List (String × Json ν)
  | [] => [(name, v)]
  | (n, w) :: ps => if n = name then (n, v) :: ps else (n, w) :: assign name v ps

mutual

/-- A value, with blanks before it. -/
def value : ℕ → List Char → Option (Json (List Char) × List Char)
  | 0, _ => none
  | n + 1, cs =>
    match skipBlanks cs with
    | 'n' :: 'u' :: 'l' :: 'l' :: cs => some (null, cs)
    | 't' :: 'r' :: 'u' :: 'e' :: cs => some (bool true, cs)
    | 'f' :: 'a' :: 'l' :: 's' :: 'e' :: cs => some (bool false, cs)
    | '"' :: cs => (scanString cs).map fun r => (string (String.ofList r.1), r.2)
    | '[' :: cs =>
      match skipBlanks cs with
      | ']' :: cs => some (array [], cs)
      | cs => (elements n cs).map fun r => (array r.1, r.2)
    | '{' :: cs =>
      match skipBlanks cs with
      | '}' :: cs => some (object [], cs)
      | cs => (members n [] cs).map fun r => (object r.1, r.2)
    | cs => (scanNumber cs).map fun r => (number r.1, r.2)

/-- The elements of an array, up to its end. -/
def elements : ℕ → List Char → Option (List (Json (List Char)) × List Char)
  | 0, _ => none
  | n + 1, cs =>
    (value n cs).bind fun v =>
      match skipBlanks v.2 with
      | ',' :: cs => (elements n cs).map fun r => (v.1 :: r.1, r.2)
      | ']' :: cs => some ([v.1], cs)
      | _ => none

/-- The members of an object, up to its end, added to those before. -/
def members : ℕ → List (String × Json (List Char)) → List Char →
    Option (List (String × Json (List Char)) × List Char)
  | 0, _, _ => none
  | n + 1, ps, cs =>
    match skipBlanks cs with
    | '"' :: cs =>
      (scanString cs).bind fun name =>
        match skipBlanks name.2 with
        | ':' :: cs =>
          (value n cs).bind fun v =>
            match skipBlanks v.2 with
            | ',' :: cs => members n (assign (String.ofList name.1) v.1 ps) cs
            | '}' :: cs => some (assign (String.ofList name.1) v.1 ps, cs)
            | _ => none
        | _ => none
    | _ => none

end

/-- The value of a JSON text. -/
def parse (cs : List Char) : Option (Json (List Char)) :=
  (value (cs.length + 1) cs).bind fun v => if skipBlanks v.2 = [] then some v.1 else none

/-! ## The printer -/

def hexChar (n : ℕ) : Char := if n < 10 then Char.ofNat (48 + n) else Char.ofNat (87 + n)

/-- A character of a string, escaped where it has to be. -/
def escape (c : Char) : List Char :=
  if c = '"' ∨ c = '\\' then ['\\', c]
  else if c.toNat < 32 then ['\\', 'u', '0', '0', hexChar (c.toNat / 16), hexChar (c.toNat % 16)]
  else [c]

def quote (cs : List Char) : List Char := '"' :: cs.flatMap escape ++ ['"']

mutual

def print : Json (List Char) → List Char
  | null => ['n', 'u', 'l', 'l']
  | bool true => ['t', 'r', 'u', 'e']
  | bool false => ['f', 'a', 'l', 's', 'e']
  | number x => x
  | string s => quote s.toList
  | array es => '[' :: printElements es
  | object ps => '{' :: printMembers ps

def printElements : List (Json (List Char)) → List Char
  | [] => [']']
  | v :: vs => print v ++ if vs.isEmpty then [']'] else ',' :: printElements vs

def printMembers : List (String × Json (List Char)) → List Char
  | [] => ['}']
  | (name, v) :: ps =>
    quote name.toList ++ ':' :: ' ' :: print v ++
      if ps.isEmpty then ['}'] else ',' :: printMembers ps

end

theorem print_null : print null = "null".toList := rfl

theorem print_number (x : List Char) : print (number x) = x := rfl

theorem print_string (s : String) : print (string s) = quote s.toList := rfl

theorem print_object (ps : List (String × Json (List Char))) :
    print (object ps) = '{' :: printMembers ps := rfl

/-- Nothing has to be escaped. -/
def Plain (cs : List Char) : Prop := cs.flatMap escape = cs

instance (cs : List Char) : Decidable (Plain cs) := inferInstanceAs (Decidable (_ = _))

theorem Plain.quote {cs : List Char} (h : Plain cs) : quote cs = '"' :: cs ++ ['"'] := by
  rw [Json.quote, h]

theorem printMembers_cons {name : String} (h : Plain name.toList) (v : Json (List Char))
    (ps : List (String × Json (List Char))) : printMembers ((name, v) :: ps) =
      '"' :: name.toList ++ '"' :: ':' :: ' ' :: print v ++
        if ps.isEmpty then ['}'] else ',' :: printMembers ps := by
  rw [printMembers, h.quote]
  simp only [List.cons_append, List.append_assoc, List.nil_append]

/-- The characters spell a number. -/
def Spelled (x : List Char) : Prop := scanNumber x = some (x, [])

instance (x : List Char) : Decidable (Spelled x) := inferInstanceAs (Decidable (_ = _))

mutual

/-- Numbers are spelled as such, and no name comes twice. -/
def Valid : Json (List Char) → Prop
  | number x => Spelled x
  | array es => ValidElements es
  | object ps => (ps.map Prod.fst).Nodup ∧ ValidMembers ps
  | _ => True

def ValidElements : List (Json (List Char)) → Prop
  | [] => True
  | v :: vs => Valid v ∧ ValidElements vs

def ValidMembers : List (String × Json (List Char)) → Prop
  | [] => True
  | (_, v) :: ps => Valid v ∧ ValidMembers ps

end

/-! ## Scanners on longer texts -/

/-- No number goes on here. -/
def NumberEnds : List Char → Prop
  | [] => True
  | c :: _ => ¬c.isDigit ∧ c ≠ '.' ∧ c ≠ 'e' ∧ c ≠ 'E'

theorem span_append {p : Char → Bool} {cs rest : List Char} (hrest : ∀ c ∈ rest.head?, ¬p c) :
    (cs ++ rest).takeWhile p = cs.takeWhile p ∧
      (cs ++ rest).dropWhile p = cs.dropWhile p ++ rest := by
  induction cs with
  | nil =>
    cases rest with
    | nil => exact ⟨rfl, rfl⟩
    | cons c rest =>
      have hc : p c = false := by simpa using hrest c rfl
      exact ⟨List.takeWhile_cons_of_neg (by simp [hc]), List.dropWhile_cons_of_neg (by simp [hc])⟩
  | cons c cs ih =>
    rw [List.cons_append]
    cases hc : p c with
    | true => simp [hc, ih]
    | false => simp [hc]

theorem scanMinus_append {cs : List Char} (hcs : cs ≠ []) (rest : List Char) :
    scanMinus (cs ++ rest) = ((scanMinus cs).1, (scanMinus cs).2 ++ rest) := by
  obtain ⟨c, cs, rfl⟩ := List.exists_cons_of_ne_nil hcs
  by_cases hc : c = '-'
  · rw [hc]
    rfl
  · have hcons (l : List Char) : scanMinus (c :: l) = ([], c :: l) :=
      scanMinus.eq_2 _ fun _ h => hc (List.cons.inj h).1
    rw [List.cons_append, hcons, hcons]
    rfl

theorem scanSign_append {cs : List Char} (hcs : cs ≠ []) (rest : List Char) :
    scanSign (cs ++ rest) = ((scanSign cs).1, (scanSign cs).2 ++ rest) := by
  obtain ⟨c, cs, rfl⟩ := List.exists_cons_of_ne_nil hcs
  by_cases hminus : c = '-'
  · rw [hminus]
    rfl
  · by_cases hplus : c = '+'
    · rw [hplus]
      rfl
    · have hcons (l : List Char) : scanSign (c :: l) = ([], c :: l) :=
        scanSign.eq_3 _ (fun _ h => hminus (List.cons.inj h).1) fun _ h => hplus (List.cons.inj h).1
      rw [List.cons_append, hcons, hcons]
      rfl

namespace NumberEnds

theorem of_punctuation {c : Char} (hc : c = ',' ∨ c = ']' ∨ c = '}') {rest : List Char} :
    NumberEnds (c :: rest) := by
  rcases hc with rfl | rfl | rfl
  all_goals
    change ¬_ ∧ _ ∧ _ ∧ _
    decide

variable {cs rest : List Char} (hrest : NumberEnds rest)
include hrest

theorem digits : (cs ++ rest).takeWhile Char.isDigit = cs.takeWhile Char.isDigit ∧
    (cs ++ rest).dropWhile Char.isDigit = cs.dropWhile Char.isDigit ++ rest := by
  refine span_append fun c hc => ?_
  obtain ⟨rest, rfl⟩ := List.head?_eq_some_iff.1 hc
  exact hrest.1

theorem scanInteger {r : List Char × List Char} (h : scanInteger cs = some r) :
    Json.scanInteger (cs ++ rest) = some (r.1, r.2 ++ rest) := by
  cases cs with
  | nil => cases h
  | cons c cs =>
    by_cases hc : c = '0'
    · subst hc
      obtain rfl := Option.some.inj h
      rfl
    · rw [Json.scanInteger.eq_3 _ _ hc] at h
      rw [List.cons_append, Json.scanInteger.eq_3 _ _ hc]
      split_ifs at h ⊢
      obtain rfl := Option.some.inj h
      rw [hrest.digits.1, hrest.digits.2]

theorem scanFraction {r : List Char × List Char} (h : scanFraction cs = some r) :
    Json.scanFraction (cs ++ rest) = some (r.1, r.2 ++ rest) := by
  by_cases hdot : ∃ cs', cs = '.' :: cs'
  · obtain ⟨cs', rfl⟩ := hdot
    rw [Json.scanFraction] at h
    rw [List.cons_append, Json.scanFraction, hrest.digits.1, hrest.digits.2]
    split_ifs at h ⊢
    obtain rfl := Option.some.inj h
    rfl
  · have hcs : Json.scanFraction cs = some ([], cs) :=
      Json.scanFraction.eq_2 _ fun cs' h => hdot ⟨cs', h⟩
    have happend : Json.scanFraction (cs ++ rest) = some ([], cs ++ rest) := by
      refine Json.scanFraction.eq_2 _ fun cs' h => ?_
      cases cs with
      | nil =>
        rw [List.nil_append] at h
        subst h
        exact hrest.2.1 rfl
      | cons c cs => exact hdot ⟨cs, by rw [(List.cons.inj h).1]⟩
    rw [hcs] at h
    obtain rfl := Option.some.inj h
    exact happend

theorem scanExponent {r : List Char × List Char} (h : scanExponent cs = some r) :
    Json.scanExponent (cs ++ rest) = some (r.1, r.2 ++ rest) := by
  cases cs with
  | nil =>
    obtain rfl := Option.some.inj h
    cases rest with
    | nil => rfl
    | cons c rest => exact if_neg (not_or.2 hrest.2.2)
  | cons c cs =>
    rw [Json.scanExponent] at h
    rw [List.cons_append, Json.scanExponent]
    by_cases he : c = 'e' ∨ c = 'E'
    · rw [if_pos he] at h ⊢
      dsimp only at h ⊢
      split_ifs at h with hnone
      have hcs : cs ≠ [] := fun hnil => hnone (by rw [hnil]; rfl)
      obtain rfl := Option.some.inj h
      rw [scanSign_append hcs, hrest.digits.1, hrest.digits.2, if_neg hnone]
    · rw [if_neg he] at h ⊢
      obtain rfl := Option.some.inj h
      rfl

/-- A number is scanned in a longer text as well. -/
theorem scanNumber {r : List Char × List Char} (h : scanNumber cs = some r) :
    Json.scanNumber (cs ++ rest) = some (r.1, r.2 ++ rest) := by
  rw [Json.scanNumber] at h
  obtain ⟨i, hi, h⟩ := Option.bind_eq_some_iff.1 h
  obtain ⟨f, hf, h⟩ := Option.bind_eq_some_iff.1 h
  obtain ⟨e, he, h⟩ := Option.bind_eq_some_iff.1 h
  obtain rfl := Option.some.inj h
  have hcs : cs ≠ [] := by
    rintro rfl
    cases hi
  simp only [Json.scanNumber, scanMinus_append hcs, hrest.scanInteger hi, hrest.scanFraction hf,
    hrest.scanExponent he, Option.bind_eq_bind, Option.bind_some]

end NumberEnds

/-! ## What is printed is parsed back -/

theorem unicode_hexChar {n : ℕ} (hn : n < 32) :
    unicode '0' '0' (hexChar (n / 16)) (hexChar (n % 16)) = some (Char.ofNat n) := by
  revert n
  decide

theorem scanString_escape (c : Char) (cs : List Char) :
    scanString (escape c ++ cs) = (scanString cs).map fun r => (c :: r.1, r.2) := by
  unfold escape
  split_ifs with hc hctl
  · rcases hc with rfl | rfl
    all_goals
      change (scanString cs).bind _ = _
      cases scanString cs <;> rfl
  · change (unicode _ _ _ _).bind _ = _
    rw [unicode_hexChar hctl, Option.bind_some, Char.ofNat_toNat]
    change (scanString cs).bind _ = _
    cases scanString cs <;> rfl
  · rw [not_or] at hc
    rw [List.singleton_append, scanString.eq_5, if_neg hctl]
    · cases scanString cs <;> rfl
    · exact hc.1
    · exact fun _ _ _ _ _ h => absurd h hc.2
    · exact fun _ _ h => absurd h hc.2

theorem scanString_print (cs rest : List Char) :
    scanString (cs.flatMap escape ++ '"' :: rest) = some (cs, rest) := by
  induction cs with
  | nil => rfl
  | cons c cs ih =>
    rw [List.flatMap_cons, List.append_assoc, scanString_escape, ih]
    rfl

theorem skipBlanks_cons {c : Char} (hc : ¬isBlank c) (cs : List Char) :
    skipBlanks (c :: cs) = c :: cs :=
  List.dropWhile_cons_of_neg hc

theorem assign_of_not_mem {ν : Type} {name : String} (v : Json ν) {ps : List (String × Json ν)}
    (h : name ∉ ps.map Prod.fst) : assign name v ps = ps ++ [(name, v)] := by
  induction ps with
  | nil => rfl
  | cons p ps ih =>
    rw [List.map_cons, List.mem_cons, not_or] at h
    rw [assign, if_neg (Ne.symm h.1), ih h.2, List.cons_append]

/-- A character that numbers start with. -/
def StartsNumber (c : Char) : Prop := c = '-' ∨ c.isDigit

instance (c : Char) : Decidable (StartsNumber c) := inferInstanceAs (Decidable (_ ∨ _))

theorem Spelled.starts {x : List Char} (hx : Spelled x) : ∃ c cs, x = c :: cs ∧ StartsNumber c := by
  cases x with
  | nil => cases hx
  | cons c cs =>
    refine ⟨c, cs, rfl, ?_⟩
    by_contra hc
    rw [StartsNumber, not_or] at hc
    have hminus : scanMinus (c :: cs) = ([], c :: cs) :=
      scanMinus.eq_2 _ fun _ h => hc.1 (List.cons.inj h).1
    have hinteger : scanInteger (c :: cs) = none := by
      rw [scanInteger.eq_3 _ _ fun h => hc.2 (by rw [h]; rfl), if_neg hc.2]
    rw [Spelled, scanNumber, hminus, hinteger] at hx
    cases hx

namespace StartsNumber

variable {c : Char} (hc : StartsNumber c)
include hc

theorem not_isBlank : ¬isBlank c := by
  rw [isBlank]
  simp only [Bool.or_eq_true, decide_eq_true_eq]
  rintro (((rfl | rfl) | rfl) | rfl) <;> exact absurd hc (by decide)

theorem value (n : ℕ) (cs : List Char) :
    value (n + 1) (c :: cs) = (scanNumber (c :: cs)).map fun r => (number r.1, r.2) := by
  rw [Json.value, skipBlanks_cons hc.not_isBlank]
  split
  case h_7 => rfl
  all_goals
    rename_i h
    rw [(List.cons.inj h).1] at hc
    exact absurd hc (by decide)

end StartsNumber

/-- What is printed starts a value. -/
theorem print_starts {v : Json (List Char)} (hv : Valid v) :
    ∃ c cs, print v = c :: cs ∧ ¬isBlank c ∧ c ≠ ']' ∧ c ≠ '}' := by
  match v with
  | null => exact ⟨_, _, rfl, by decide⟩
  | bool true => exact ⟨_, _, rfl, by decide⟩
  | bool false => exact ⟨_, _, rfl, by decide⟩
  | string s => exact ⟨_, _, rfl, by decide⟩
  | array es => exact ⟨_, _, rfl, by decide⟩
  | object ps => exact ⟨_, _, rfl, by decide⟩
  | number x =>
    obtain ⟨c, cs, rfl, hc⟩ := Spelled.starts hv
    refine ⟨c, cs, rfl, hc.not_isBlank, ?_, ?_⟩
    all_goals
      rintro rfl
      exact absurd hc (by decide)

theorem value_string (s : String) (n : ℕ) (rest : List Char) :
    value (n + 1) (quote s.toList ++ rest) = some (string s, rest) := by
  have hquote : quote s.toList ++ rest = '"' :: (s.toList.flatMap escape ++ '"' :: rest) := by
    simp [quote]
  rw [hquote]
  change (scanString _).map _ = _
  rw [scanString_print, Option.map_some, String.ofList_toList]

theorem value_blank (n : ℕ) (cs : List Char) : value n (' ' :: cs) = value n cs := by
  cases n <;> rfl

/-- A member, where its name starts. -/
theorem members_quote (n : ℕ) (ps : List (String × Json (List Char))) (name : String)
    (cs : List Char) :
    members (n + 1) ps (quote name.toList ++ ':' :: ' ' :: cs) =
      (value n cs).bind fun v =>
        match skipBlanks v.2 with
        | ',' :: cs => members n (assign name v.1 ps) cs
        | '}' :: cs => some (assign name v.1 ps, cs)
        | _ => none := by
  have hquote : quote name.toList ++ ':' :: ' ' :: cs =
      '"' :: (name.toList.flatMap escape ++ '"' :: ':' :: ' ' :: cs) := by
    simp [quote]
  rw [hquote]
  change (scanString _).bind _ = _
  rw [scanString_print, Option.bind_some, String.ofList_toList]
  change (value n (' ' :: cs)).bind _ = _
  rw [value_blank]

/-- An array that is not empty, where its first value starts. -/
theorem value_array {c : Char} (hblank : ¬isBlank c) (hc : c ≠ ']') (n : ℕ) (cs : List Char) :
    value (n + 1) ('[' :: c :: cs) = (elements n (c :: cs)).map fun r => (array r.1, r.2) := by
  change (match skipBlanks (c :: cs) with
    | ']' :: cs => _
    | cs => _) = _
  rw [skipBlanks_cons hblank]
  split
  · rename_i h
    exact absurd (List.cons.inj h).1 hc
  · rfl

mutual

/-- A value that was printed is parsed, whatever follows that does not continue it. -/
theorem value_print (v : Json (List Char)) (hv : Valid v) {n : ℕ} (hn : (print v).length ≤ n + 1)
    (rest : List Char) (hrest : NumberEnds rest) :
    value (n + 1) (print v ++ rest) = some (v, rest) := by
  match v with
  | null => rfl
  | bool true => rfl
  | bool false => rfl
  | number x =>
    obtain ⟨c, cs, rfl, hc⟩ := Spelled.starts hv
    rw [print, List.cons_append, hc.value, ← List.cons_append, hrest.scanNumber hv]
    rfl
  | string s => exact value_string s n rest
  | array [] => rfl
  | array (v :: vs) =>
    obtain ⟨c, cs, hcs, hblank, hc, -⟩ := print_starts hv.1
    have hlen : (printElements (v :: vs)).length ≤ n := Nat.le_of_succ_le_succ hn
    have hstarts : printElements (v :: vs) ++ rest =
        c :: (cs ++ (if vs.isEmpty then [']'] else ',' :: printElements vs) ++ rest) := by
      rw [printElements, hcs]
      rfl
    obtain ⟨n, rfl⟩ : ∃ m, n = m + 1 :=
      Nat.exists_eq_add_one.2 (Nat.lt_of_lt_of_le (by simp [printElements, hcs]) hlen)
    have helements := elements_print v vs hv hlen rest
    rw [hstarts] at helements
    rw [print, List.cons_append, hstarts, value_array hblank hc, helements]
    rfl
  | object [] => rfl
  | object ((name, v) :: ps) =>
    have hlen : (printMembers ((name, v) :: ps)).length ≤ n := Nat.le_of_succ_le_succ hn
    obtain ⟨n, rfl⟩ : ∃ m, n = m + 1 :=
      Nat.exists_eq_add_one.2 (Nat.lt_of_lt_of_le (by simp [printMembers, quote]) hlen)
    have hmembers := members_print (name, v) ps hv.2 hlen [] hv.1 rest
    change (members (n + 1) [] (printMembers ((name, v) :: ps) ++ rest)).map _ = _
    rw [hmembers]
    rfl
termination_by n

/-- So are the elements of an array. -/
theorem elements_print (v : Json (List Char)) (vs : List (Json (List Char)))
    (hv : ValidElements (v :: vs)) {n : ℕ} (hn : (printElements (v :: vs)).length ≤ n + 1)
    (rest : List Char) :
    elements (n + 1) (printElements (v :: vs) ++ rest) = some (v :: vs, rest) := by
  obtain ⟨c, cs, hcs, -⟩ := print_starts hv.1
  have hpos : 0 < (print v).length := by rw [hcs]; exact Nat.succ_pos _
  rw [printElements, List.length_append] at hn
  rw [printElements, List.append_assoc, elements]
  match vs with
  | [] =>
    obtain ⟨n, rfl⟩ : ∃ m, n = m + 1 := Nat.exists_eq_add_one.2 (by simp at hn; omega)
    have hvalue := value_print v hv.1 (n := n) (by simp at hn; omega) (']' :: rest)
      (.of_punctuation (by decide))
    change (value (n + 1) (print v ++ ']' :: rest)).bind _ = _
    rw [hvalue]
    rfl
  | w :: ws =>
    have hlen : (print v).length + ((printElements (w :: ws)).length + 1) ≤ n + 1 := hn
    obtain ⟨n, rfl⟩ : ∃ m, n = m + 1 := Nat.exists_eq_add_one.2 (by omega)
    have hvalue := value_print v hv.1 (n := n) (by omega)
      (',' :: (printElements (w :: ws) ++ rest)) (.of_punctuation (by decide))
    have hrest := elements_print w ws hv.2 (n := n) (by omega) rest
    change (value (n + 1) (print v ++ ',' :: (printElements (w :: ws) ++ rest))).bind _ = _
    rw [hvalue]
    change (elements (n + 1) (printElements (w :: ws) ++ rest)).map _ = _
    rw [hrest]
    rfl
termination_by n

/-- So are the members of an object, behind others. -/
theorem members_print (p : String × Json (List Char)) (ps : List (String × Json (List Char)))
    (hps : ValidMembers (p :: ps)) {n : ℕ} (hn : (printMembers (p :: ps)).length ≤ n + 1)
    (qs : List (String × Json (List Char))) (hnames : ((qs ++ p :: ps).map Prod.fst).Nodup)
    (rest : List Char) :
    members (n + 1) qs (printMembers (p :: ps) ++ rest) = some (qs ++ p :: ps, rest) := by
  obtain ⟨name, v⟩ := p
  rw [List.map_append, List.map_cons] at hnames
  have hassign : assign name v qs = qs ++ [(name, v)] :=
    assign_of_not_mem v fun hmem => (List.nodup_append.1 hnames).2.2 _ hmem _ List.mem_cons_self rfl
  obtain ⟨c, cs, hcs, -⟩ := print_starts hps.1
  have hpos : 0 < (print v).length := by rw [hcs]; exact Nat.succ_pos _
  rw [printMembers, List.length_append, List.length_append, List.length_cons,
    List.length_cons] at hn
  rw [printMembers, List.append_assoc, List.append_assoc, List.cons_append, List.cons_append,
    members_quote]
  obtain ⟨n, rfl⟩ : ∃ m, n = m + 1 := Nat.exists_eq_add_one.2 (by omega)
  match ps with
  | [] =>
    have hvalue := value_print v hps.1 (n := n) (by omega) ('}' :: rest) (.of_punctuation (by decide))
    change (value (n + 1) (print v ++ '}' :: rest)).bind _ = _
    rw [hvalue]
    change some (assign name v qs, rest) = _
    rw [hassign]
  | p :: ps =>
    have hlen : (quote name.toList).length + ((print v).length + 1 + 1) +
        ((printMembers (p :: ps)).length + 1) ≤ n + 1 + 1 := hn
    have hvalue := value_print v hps.1 (n := n) (by omega) (',' :: (printMembers (p :: ps) ++ rest))
      (.of_punctuation (by decide))
    have hnames' : ((qs ++ [(name, v)] ++ p :: ps).map Prod.fst).Nodup := by
      rwa [List.append_assoc, List.map_append]
    have hrest := members_print p ps hps.2 (n := n) (by omega) (qs ++ [(name, v)]) hnames' rest
    change (value (n + 1) (print v ++ ',' :: (printMembers (p :: ps) ++ rest))).bind _ = _
    rw [hvalue]
    change members (n + 1) (assign name v qs) (printMembers (p :: ps) ++ rest) = _
    rw [hassign, hrest, List.append_assoc]
    rfl
termination_by n

end

/-- **A value that was printed is parsed again.** -/
theorem parse_print {v : Json (List Char)} (hv : Valid v) : parse (print v) = some v := by
  have h := value_print v hv (Nat.le_succ _) [] trivial
  rw [List.append_nil] at h
  rw [parse, h]
  rfl

end Json

end RidenDongle
