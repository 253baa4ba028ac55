/-
Names of types.

Records tell types by name only. A name is made of words, brackets and commas, and can be read back from the front of
any characters that do not go on with a word. So different types have different names.
- `read_name`: a name reads back as its type;
- `Ty.name_injective`, `AnyTy.name_injective`: types with the same name are the same.
-/
import Loopback.Ty

namespace Loopback

namespace TypeName

/-! ## Reading names -/

/-- whether a character belongs to a word -/
def inWord (c : Char) : Bool := c ∉ ['<', '>', '(', ')', ',']

/-- the characters do not go on with a word -/
def Ends (r : List Char) : Prop := ∀ c ∈ r.head?, inWord c = false

/-- the types whose names are single words -/
def atoms : List Ty :=
  [.u8, .u16, .u32, .u64, .usize, .i8, .i16, .i32, .i64, .bool, .char, .f32, .f64, .text, .user, .account, .shape,
    .lazySeq, .pairMap, .userError, .bufferError, .calcError, .capturedFailure, .invocationError, .remoteFailure]

/-- what a name is about, by its first word: a type, or a type of others that are named after it -/
inductive Head where
  | atom (t : Ty)
  | wrapper (lead : List Char) (mk : Ty → Ty)

def head? (word : List Char) : Option Head :=
  if word = "alloc::vec::Vec".toList then some (.wrapper "<".toList .list)
  else if word = "core::option::Option".toList then some (.wrapper "<".toList .option)
  else if word = "alloc::collections::btree::map::BTreeMap".toList then
    some (.wrapper "<alloc::string::String, ".toList .map)
  else (atoms.find? fun t => t.name.toList = word).map .atom

/-- a type in brackets -/
def closed (mk : Ty → Ty) : Option (Ty × List Char) → Option (Ty × List Char)
  | some (t, '>' :: r) => some (mk t, r)
  | _ => none

/-- two or three types with commas between them, or none, and a bracket -/
def tuple (read : List Char → Option (Ty × List Char)) (r : List Char) : Option (Ty × List Char) :=
  match read r with
  | some (a, ',' :: ' ' :: r) =>
    match read r with
    | some (b, ')' :: r) => some (.pair a b, r)
    | some (b, ',' :: ' ' :: r) =>
      match read r with
      | some (c, ')' :: r) => some (.triple a b c, r)
      | _ => none
    | _ => none
  | _ =>
    match r with
    | ')' :: r => some (.unit, r)
    | _ => none

/-- read a name from the front -/
def read : (fuel : Nat) → List Char → Option (Ty × List Char)
  | 0, _ => none
  | fuel + 1, cs =>
    match head? (cs.takeWhile inWord), cs.dropWhile inWord with
    | some (.atom t), r => some (t, r)
    | some (.wrapper lead mk), r => (lead.isPrefixOf? r).bind fun r => closed mk (read fuel r)
    | none, '(' :: r => tuple (read fuel) r
    | none, _ => none

/-- how deep the types in a type are nested -/
def depth : Ty → Nat
  | .list t => depth t + 1
  | .option t => depth t + 1
  | .map t => depth t + 1
  | .pair a b => max (depth a) (depth b) + 1
  | .triple a b c => max (depth a) (max (depth b) (depth c)) + 1
  | _ => 0

variable {fuel : Nat} {r : List Char}

theorem takeWhile_word {w : List Char} (hw : w.all inWord = true) (hr : Ends r) :
    (w ++ r).takeWhile inWord = w ∧ (w ++ r).dropWhile inWord = r := by
  induction w with
  | nil =>
    cases r with
    | nil => exact ⟨rfl, rfl⟩
    | cons c r =>
      have hc : inWord c = false := hr c rfl
      rw [List.nil_append, List.takeWhile_cons, List.dropWhile_cons, hc]
      exact ⟨rfl, rfl⟩
  | cons c w ih =>
    obtain ⟨hc, hw⟩ := (Bool.and_eq_true _ _).mp hw
    rw [List.cons_append, List.takeWhile_cons, List.dropWhile_cons, if_pos hc, if_pos hc, (ih hw).1, (ih hw).2]
    exact ⟨rfl, rfl⟩

theorem isPrefixOf?_append (l r : List Char) : l.isPrefixOf? (l ++ r) = some r := by
  induction l with
  | nil => rfl
  | cons c l ih =>
    show (if c == c then l.isPrefixOf? (l ++ r) else none) = some r
    rw [if_pos (beq_self_eq_true c), ih]

theorem read_atom {t : Ty} (ht : head? t.name.toList = some (.atom t)) (hw : t.name.toList.all inWord = true)
    (hr : Ends r) : read (fuel + 1) (t.name.toList ++ r) = some (t, r) := by
  rw [read, (takeWhile_word hw hr).1, (takeWhile_word hw hr).2, ht]

theorem read_wrapper {w lead : List Char} {mk : Ty → Ty} {t : Ty} (hh : head? w = some (.wrapper lead mk))
    (hw : w.all inWord = true) (hl : Ends lead) (hlead : lead ≠ [])
    (h : read fuel (t.name.toList ++ '>' :: r) = some (t, '>' :: r)) :
    read (fuel + 1) (w ++ (lead ++ (t.name.toList ++ '>' :: r))) = some (mk t, r) := by
  have ends : Ends (lead ++ (t.name.toList ++ '>' :: r)) := by
    cases lead with
    | nil => exact absurd rfl hlead
    | cons c lead => exact hl
  rw [read, (takeWhile_word hw ends).1, (takeWhile_word hw ends).2, hh]
  dsimp only
  rw [isPrefixOf?_append, Option.bind_some, h]
  rfl

theorem ends_of (c : Char) (hc : inWord c = false) (r : List Char) : Ends (c :: r) := by
  intro c' h
  cases h
  exact hc

theorem read_tuple (r : List Char) : read (fuel + 1) ('(' :: r) = tuple (read fuel) r := by
  have word : ('(' :: r).takeWhile inWord = [] := rfl
  have rest : ('(' :: r).dropWhile inWord = '(' :: r := rfl
  have nothing : head? [] = none := rfl
  rw [read, word, rest, nothing]
  rfl

theorem read_close (r : List Char) : read fuel (')' :: r) = none := by
  cases fuel with
  | zero => rfl
  | succ fuel =>
    have word : (')' :: r).takeWhile inWord = [] := rfl
    have rest : (')' :: r).dropWhile inWord = ')' :: r := rfl
    have nothing : head? [] = none := rfl
    rw [read, word, rest, nothing]
    rfl

theorem exists_fuel {n : Nat} (h : n + 1 < fuel + 1) : ∃ k, fuel = k + 1 :=
  Nat.exists_eq_add_one_of_ne_zero (Nat.ne_zero_of_lt (Nat.lt_of_succ_lt_succ h))

/-- **Reading back.** A name reads back as its type, whatever follows that does not go on with a word. -/
theorem read_name {t : Ty} (hf : depth t < fuel + 1) (hr : Ends r) :
    read (fuel + 1) (t.name.toList ++ r) = some (t, r) := by
  induction t generalizing fuel r with
  | u8 => exact read_atom rfl rfl hr
  | u16 => exact read_atom rfl rfl hr
  | u32 => exact read_atom rfl rfl hr
  | u64 => exact read_atom rfl rfl hr
  | usize => exact read_atom rfl rfl hr
  | i8 => exact read_atom rfl rfl hr
  | i16 => exact read_atom rfl rfl hr
  | i32 => exact read_atom rfl rfl hr
  | i64 => exact read_atom rfl rfl hr
  | bool => exact read_atom rfl rfl hr
  | char => exact read_atom rfl rfl hr
  | f32 => exact read_atom rfl rfl hr
  | f64 => exact read_atom rfl rfl hr
  | unit =>
    show read (fuel + 1) ('(' :: ')' :: r) = _
    rw [read_tuple, tuple, read_close]
  | text => exact read_atom rfl rfl hr
  | list t ih =>
    obtain ⟨fuel, rfl⟩ := exists_fuel hf
    have inner := ih (Nat.lt_of_succ_lt_succ hf) (ends_of '>' rfl r)
    have name : (Ty.list t).name.toList ++ r =
        "alloc::vec::Vec".toList ++ ("<".toList ++ (t.name.toList ++ '>' :: r)) := by
      rw [show (Ty.list t).name = "alloc::vec::Vec<" ++ t.name ++ ">" from rfl]
      simp
    rw [name]
    exact read_wrapper rfl rfl (ends_of '<' rfl _) (List.cons_ne_nil _ _) inner
  | option t ih =>
    obtain ⟨fuel, rfl⟩ := exists_fuel hf
    have inner := ih (Nat.lt_of_succ_lt_succ hf) (ends_of '>' rfl r)
    have name : (Ty.option t).name.toList ++ r =
        "core::option::Option".toList ++ ("<".toList ++ (t.name.toList ++ '>' :: r)) := by
      rw [show (Ty.option t).name = "core::option::Option<" ++ t.name ++ ">" from rfl]
      simp
    rw [name]
    exact read_wrapper rfl rfl (ends_of '<' rfl _) (List.cons_ne_nil _ _) inner
  | map t ih =>
    obtain ⟨fuel, rfl⟩ := exists_fuel hf
    have inner := ih (Nat.lt_of_succ_lt_succ hf) (ends_of '>' rfl r)
    have name : (Ty.map t).name.toList ++ r = "alloc::collections::btree::map::BTreeMap".toList ++
        ("<alloc::string::String, ".toList ++ (t.name.toList ++ '>' :: r)) := by
      rw [show (Ty.map t).name =
        "alloc::collections::btree::map::BTreeMap<alloc::string::String, " ++ t.name ++ ">" from rfl]
      simp
    rw [name]
    exact read_wrapper rfl rfl (ends_of '<' rfl _) (List.cons_ne_nil _ _) inner
  | pair a b iha ihb =>
    obtain ⟨fuel, rfl⟩ := exists_fuel hf
    obtain ⟨ha, hb⟩ := Nat.max_lt.1 (Nat.lt_of_succ_lt_succ hf)
    have first := iha ha (ends_of ',' rfl (' ' :: (b.name.toList ++ ')' :: r)))
    have second := ihb hb (ends_of ')' rfl r)
    have name : (Ty.pair a b).name.toList ++ r =
        '(' :: (a.name.toList ++ ',' :: ' ' :: (b.name.toList ++ ')' :: r)) := by
      rw [show (Ty.pair a b).name = "(" ++ a.name ++ ", " ++ b.name ++ ")" from rfl]
      simp
    rw [name, read_tuple]
    simp only [tuple, first, second]
  | triple a b c iha ihb ihc =>
    obtain ⟨fuel, rfl⟩ := exists_fuel hf
    obtain ⟨ha, hbc⟩ := Nat.max_lt.1 (Nat.lt_of_succ_lt_succ hf)
    obtain ⟨hb, hc⟩ := Nat.max_lt.1 hbc
    have first := iha ha (ends_of ',' rfl (' ' :: (b.name.toList ++ ',' :: ' ' :: (c.name.toList ++ ')' :: r))))
    have second := ihb hb (ends_of ',' rfl (' ' :: (c.name.toList ++ ')' :: r)))
    have third := ihc hc (ends_of ')' rfl r)
    have name : (Ty.triple a b c).name.toList ++ r =
        '(' :: (a.name.toList ++ ',' :: ' ' :: (b.name.toList ++ ',' :: ' ' :: (c.name.toList ++ ')' :: r))) := by
      rw [show (Ty.triple a b c).name = "(" ++ a.name ++ ", " ++ b.name ++ ", " ++ c.name ++ ")" from rfl]
      simp
    rw [name, read_tuple]
    simp only [tuple, first, second, third]
  | user => exact read_atom rfl rfl hr
  | account => exact read_atom rfl rfl hr
  | shape => exact read_atom rfl rfl hr
  | lazySeq => exact read_atom rfl rfl hr
  | pairMap => exact read_atom rfl rfl hr
  | userError => exact read_atom rfl rfl hr
  | bufferError => exact read_atom rfl rfl hr
  | calcError => exact read_atom rfl rfl hr
  | capturedFailure => exact read_atom rfl rfl hr
  | invocationError => exact read_atom rfl rfl hr
  | remoteFailure => exact read_atom rfl rfl hr

/-- the name of no type that is sent as bytes is the name of a shared object -/
theorem read_shared (name : List Char) : read fuel ("alloc::sync::Arc".toList ++ '<' :: name) = none := by
  cases fuel with
  | zero => rfl
  | succ fuel =>
    have ends : Ends ('<' :: name) := ends_of '<' rfl name
    have word : "alloc::sync::Arc".toList.all inWord = true := rfl
    have nothing : head? "alloc::sync::Arc".toList = none := rfl
    rw [read, (takeWhile_word word ends).1, (takeWhile_word word ends).2, nothing]
    rfl

end TypeName

/-! ## Names determine types -/

theorem Ty.read_name (t : Ty) {fuel : Nat} (h : TypeName.depth t < fuel + 1) :
    TypeName.read (fuel + 1) t.name.toList = some (t, []) := by
  have read := TypeName.read_name (r := []) h nofun
  rw [List.append_nil] at read
  exact read

/-- **Types sent as bytes** with the same name are the same. -/
theorem Ty.name_injective {t u : Ty} (h : t.name = u.name) : t = u := by
  have readFirst := t.read_name (Nat.lt_succ_of_le (Nat.le_max_left _ (TypeName.depth u)))
  have readSecond := u.read_name (Nat.lt_succ_of_le (Nat.le_max_right (TypeName.depth t) _))
  rw [h, readSecond] at readFirst
  cases readFirst
  rfl

/-- **Types** with the same name are the same. -/
theorem AnyTy.name_injective {t u : AnyTy} (h : t.name = u.name) : t = u := by
  have apart (a : Ty) (rest : String) (ha : a.name = "alloc::sync::Arc<" ++ rest) : False := by
    have read := a.read_name (Nat.lt_succ_self (TypeName.depth a))
    have name : ("alloc::sync::Arc<" ++ rest).toList = "alloc::sync::Arc".toList ++ '<' :: rest.toList := by simp
    rw [ha, name, TypeName.read_shared] at read
    cases read
  cases t with
  | data a =>
    cases u with
    | data b => rw [Ty.name_injective h]
    | buffer => exact (apart a "driver::types::Buffer>" h).elim
    | auditLog => exact (apart a "driver::types::AuditLog>" h).elim
  | buffer =>
    cases u with
    | data b => exact (apart b "driver::types::Buffer>" h.symm).elim
    | buffer => rfl
    | auditLog => exact absurd h (by decide)
  | auditLog =>
    cases u with
    | data b => exact (apart b "driver::types::AuditLog>" h.symm).elim
    | buffer => exact absurd h (by decide)
    | auditLog => rfl

end Loopback
