/-
The name of a trait that is read from text.

A trait that is written by hand, as data, may have any text for a name. One that is read has an identifier: the lexer
makes no other, and what the parser reads the name from is a part of what the lexer gave it.
- `Tokens.ofText?_spelled`: every identifier among the tokens of a text is spelled as one;
- `Parser.Shrinks`: a parser leaves a part of what it was given;
- `TraitDecl.read?_isPlain`: the name of a trait that is read is plain unless it is raw;
- `ServiceDef.ofText_expands`: so a service that texts declare has all its code unless its name is raw.
-/
import Loopback.Declaration.Expansion
import Loopback.Proofs.ConstantName
import Loopback.Proofs.Declared

namespace Loopback.Declaration

open Text

/-! ## Identifiers of a text -/

/-- whether a tree that is an identifier is spelled as one -/
def Tree.Spelled (t : Tree) : Prop :=
  ∀ i, t = .ident i → isIdentifier i.name.toList = true

theorem scanIdentifier_spelled {cs rest : List Char} {i : Ident} (h : scanIdentifier cs = some (i, rest)) :
    isIdentifier i.name.toList = true := by
  unfold scanIdentifier at h
  dsimp only at h
  split at h
  · cases h
  · next c r _ =>
    split at h
    · cases h
    · next start =>
      split at h
      · cases h
      · cases h
        have opens : isIdentifierStart c = true := by simpa using start
        simp [isIdentifier, opens, isIdentifierRest_of_start opens]

theorem scanPunctuation_spelled {cs rest : List Char} {t : Tree} (h : scanPunctuation cs = some (t, rest)) :
    t.Spelled := by
  intro i hi
  subst hi
  unfold scanPunctuation at h
  split at h
  · obtain ⟨⟨_, after⟩, -, h⟩ := Option.bind_eq_some_iff.mp h
    dsimp only at h
    split at h <;> cases h
  · split at h <;> cases h
  · cases h

theorem scanLeaf_spelled {cs rest : List Char} {t : Tree} (h : scanLeaf cs = some (t, rest)) : t.Spelled := by
  unfold scanLeaf at h
  split at h
  · cases h
    nofun
  split at h
  · next p hp =>
    cases h
    exact scanPunctuation_spelled hp
  split at h
  · cases h
  · obtain ⟨⟨i, r⟩, hi, h⟩ := Option.map_eq_some_iff.mp h
    cases h
    intro j hj
    cases hj
    exact scanIdentifier_spelled hi

/-- whether every identifier among lexemes is spelled as one -/
def Lexemes.Spelled (ls : List Lexeme) : Prop :=
  ∀ t, Lexeme.leaf t ∈ ls → t.Spelled

theorem documentation_spelled {inner : Bool} {text : List Char} {ls : List Lexeme}
    (h : documentation inner text = some ls) : Lexemes.Spelled ls := by
  unfold documentation at h
  split at h
  · cases h
    intro t ht i hi
    subst hi
    have doc : isIdentifier "doc".toList = true := by decide
    cases inner <;> simp [word, sign, stringLiteral, Ident.plain] at ht <;> exact ht ▸ doc
  · cases h

theorem Lexemes.spelled_nil : Lexemes.Spelled [] := nofun

theorem Lexemes.spelled_delimiter {l : Lexeme} (h : ∀ t, l ≠ .leaf t) : Lexemes.Spelled [l] := by
  intro t ht
  exact absurd (List.mem_singleton.mp ht).symm (h t)

theorem Lexemes.spelled_leaf {t : Tree} (h : t.Spelled) : Lexemes.Spelled [.leaf t] := by
  intro u hu
  cases List.mem_singleton.mp hu
  exact h

theorem scanPiece_spelled {cs rest : List Char} {ls : List Lexeme} (h : scanPiece cs = some (ls, rest)) :
    Lexemes.Spelled ls := by
  unfold scanPiece at h
  split at h
  · cases h
    exact Lexemes.spelled_nil
  · obtain ⟨doc, hd, h⟩ := Option.map_eq_some_iff.mp h
    cases h
    exact documentation_spelled hd
  · obtain ⟨doc, hd, h⟩ := Option.map_eq_some_iff.mp h
    cases h
    exact documentation_spelled hd
  · cases h
    exact Lexemes.spelled_nil
  · cases h
    exact Lexemes.spelled_nil
  · obtain ⟨⟨text, after⟩, -, h⟩ := Option.bind_eq_some_iff.mp h
    dsimp only at h
    split at h
    · obtain ⟨doc, hd, h⟩ := Option.bind_eq_some_iff.mp h
      cases h
      exact documentation_spelled hd
    · cases h
      exact Lexemes.spelled_nil
    · split at h
      · cases h
        exact Lexemes.spelled_nil
      · obtain ⟨doc, hd, h⟩ := Option.bind_eq_some_iff.mp h
        cases h
        exact documentation_spelled hd
    · cases h
      exact Lexemes.spelled_nil
  · split at h
    · cases h
      exact Lexemes.spelled_nil
    split at h
    · cases h
      exact Lexemes.spelled_leaf nofun
    split at h
    · cases h
      exact Lexemes.spelled_delimiter nofun
    · cases h
      exact Lexemes.spelled_delimiter nofun
    · obtain ⟨⟨t, after⟩, ht, h⟩ := Option.map_eq_some_iff.mp h
      cases h
      exact Lexemes.spelled_leaf (scanLeaf_spelled ht)
  · cases h

/-- the induction is on the text: each piece is taken off its front -/
theorem lexemes_spelled {cs : List Char} {ls : List Lexeme} (h : lexemes cs = some ls) : Lexemes.Spelled ls := by
  induction cs using lexemes.induct generalizing ls with
  | case1 =>
    rw [lexemes] at h
    cases h
    exact Lexemes.spelled_nil
  | case2 c r none =>
    rw [lexemes, none] at h
    cases h
  | case3 c r piece rest found shorter ih =>
    rw [lexemes, found] at h
    simp only [shorter, dif_pos] at h
    obtain ⟨after, ha, rfl⟩ := Option.map_eq_some_iff.mp h
    intro t ht
    exact (List.mem_append.mp ht).elim (scanPiece_spelled found t) (ih ha t)
  | case4 c r piece rest found longer =>
    rw [lexemes, found] at h
    simp only [longer] at h
    cases h

/-- whether every identifier that stands in a run, not in a group of it, is spelled as one -/
def Tokens.Spelled (ts : Tokens) : Prop :=
  ∀ t ∈ ts, t.Spelled

theorem assemble_spelled {ls : List Lexeme} {groups : List (Delimiter × Tokens)} {ts us : Tokens}
    (h : assemble ls groups ts = some us) (hl : Lexemes.Spelled ls) (hg : ∀ g ∈ groups, Tokens.Spelled g.2)
    (ht : Tokens.Spelled ts) : Tokens.Spelled us := by
  induction ls generalizing groups ts with
  | nil =>
    cases groups with
    | nil =>
      cases h
      exact fun t ht' => ht t (List.mem_reverse.mp ht')
    | cons g groups => cases h
  | cons l r ih =>
    have rest : Lexemes.Spelled r := fun t hm => hl t (List.mem_cons_of_mem _ hm)
    cases l with
    | leaf t =>
      exact ih h rest hg (List.forall_mem_cons.mpr ⟨hl t List.mem_cons_self, ht⟩)
    | opening d => exact ih h rest (List.forall_mem_cons.mpr ⟨ht, hg⟩) nofun
    | closing d =>
      cases groups with
      | nil => cases h
      | cons g groups =>
        obtain ⟨e, outer⟩ := g
        rw [assemble] at h
        split at h
        · obtain ⟨houter, hgroups⟩ := List.forall_mem_cons.mp hg
          exact ih h rest hgroups (List.forall_mem_cons.mpr ⟨nofun, houter⟩)
        · cases h

theorem Tokens.ofText?_spelled {s : String} {ts : Tokens} (h : Tokens.ofText? s = some ts) : Tokens.Spelled ts := by
  obtain ⟨ls, hl, h⟩ := Option.bind_eq_some_iff.mp h
  exact assemble_spelled h (lexemes_spelled hl) nofun nofun

/-! ## What a parser leaves -/

namespace Parser

/-- whether all that a parser leaves was there before -/
def Shrinks {α : Type} (p : Parser α) : Prop :=
  ∀ ts a rest, p.run ts = some (a, rest) → rest ⊆ ts

variable {α β : Type}

theorem shrinks_pure (a : α) : Shrinks (pure a) := by
  intro ts b rest h
  cases h
  exact List.Subset.refl _

theorem shrinks_failure : Shrinks (failure : Parser α) :=
  fun _ _ _ h => nomatch h

theorem Shrinks.bind {p : Parser α} {k : α → Parser β} (hp : p.Shrinks) (hk : ∀ a, (k a).Shrinks) :
    (p >>= k).Shrinks := by
  intro ts b rest h
  obtain ⟨⟨a, between⟩, first, second⟩ := Option.bind_eq_some_iff.mp h
  exact List.Subset.trans (hk a between b rest second) (hp ts a between first)

/-- a parser that looks at the run and then keeps a part of it -/
theorem shrinks_get {k : Tokens → Parser α} (h : ∀ ts a rest, (k ts).run ts = some (a, rest) → rest ⊆ ts) :
    (get >>= k).Shrinks :=
  h

theorem shrinks_at? (c : Tokens → Bool) : Shrinks (at? c) :=
  shrinks_get fun _ => shrinks_pure _ _

theorem Shrinks.append {p q : Parser Tokens} (hp : p.Shrinks) (hq : q.Shrinks) : Shrinks (p ++ q) :=
  hp.bind fun _ => hq.bind fun _ => shrinks_pure _

theorem Shrinks.optional {p : Parser Tokens} (hp : p.Shrinks) : Shrinks (optional p) := by
  intro ts a rest h
  change (p.run ts <|> nothing.run ts) = some (a, rest) at h
  cases taken : p.run ts with
  | none =>
    rw [taken] at h
    exact shrinks_pure _ ts a rest h
  | some r =>
    rw [taken] at h
    cases h
    exact hp ts a rest taken

theorem splitSign_subset {cs : List Char} {ts taken rest : Tokens} (h : Tokens.splitSign cs ts = some (taken, rest)) :
    rest ⊆ ts := by
  fun_induction Tokens.splitSign cs ts generalizing taken rest with
  | case1 ts => cases h
  | case2 c d joint r same =>
    cases h
    exact List.subset_cons_self _ _
  | case3 c d joint r other => cases h
  | case4 c cs d r _ same ih =>
    obtain ⟨⟨t, after⟩, found, h⟩ := Option.map_eq_some_iff.mp h
    cases h
    exact List.Subset.trans (ih found) (List.subset_cons_self _ _)
  | case5 c cs d r _ other => cases h
  | case6 => cases h

theorem shrinks_symbol (s : String) : Shrinks (symbol s) := by
  refine shrinks_get fun ts a rest h => ?_
  obtain ⟨⟨⟨taken, after⟩, between⟩, found, h⟩ := Option.bind_eq_some_iff.mp h
  obtain ⟨split, hs, found⟩ := Option.bind_eq_some_iff.mp found
  cases found
  cases h
  exact splitSign_subset hs

theorem shrinks_keyword (s : String) : Shrinks (keyword s) := by
  refine shrinks_get fun ts a rest h => ?_
  split at h
  · split at h
    · cases h
      exact List.subset_cons_self _ _
    · cases h
  · cases h

/-- what is parsed within a group is not left over, so nothing is asked of the inner parser -/
theorem shrinks_within (d : Delimiter) (p : Parser α) : Shrinks (within d p) := by
  refine shrinks_get fun ts a rest h => ?_
  split at h
  · split at h
    · split at h
      · cases h
        exact List.subset_cons_self _ _
      · cases h
    · cases h
  · cases h

theorem Shrinks.iterate {step : α → Parser (Option α)} (h : ∀ a, (step a).Shrinks) (a : α) :
    Shrinks (iterate step a) := by
  refine shrinks_get fun ts b rest hrun => ?_
  suffices ∀ n a, Shrinks (iterateFor step n a) from this _ a ts b rest hrun
  intro n
  induction n with
  | zero => exact fun _ => shrinks_failure
  | succ n ih =>
    intro a
    refine (h a).bind fun next => ?_
    cases next with
    | none => exact shrinks_pure a
    | some b => exact ih b

end Parser

namespace Grammar

theorem shrinks_outerAttributes (g : Nested) : (outerAttributes g).Shrinks := by
  refine Parser.Shrinks.iterate (fun l => (Parser.shrinks_at? _).bind fun more => ?_) []
  cases more with
  | false => exact Parser.shrinks_pure _
  | true =>
    exact (Parser.shrinks_symbol _).bind fun _ =>
      (Parser.shrinks_within _ _).bind fun _ => Parser.shrinks_pure _

theorem shrinks_visibility : visibility.Shrinks := by
  refine (Parser.shrinks_at? _).bind fun isPublic => ?_
  cases isPublic with
  | false => exact Parser.shrinks_pure _
  | true =>
    refine (Parser.shrinks_keyword _).append (Parser.shrinks_get fun ts a rest h => ?_)
    have kept (d : Delimiter) (content r : Tokens) : r ⊆ .group d content :: r := List.subset_cons_self _ _
    split at h
    · split at h
      · split at h
        · cases h
          exact kept _ _ _
        · exact Parser.shrinks_pure _ _ _ _ h
      · split at h
        · split at h
          · cases h
            exact kept _ _ _
          · cases h
        · exact Parser.shrinks_pure _ _ _ _ h
    · exact Parser.shrinks_pure _ _ _ _ h

theorem identifier_mem {ts rest : Tokens} {i : Ident} (h : identifier.run ts = some (i, rest)) : Tree.ident i ∈ ts := by
  change (if Tokens.atIdent ts then anyIdent else failure : Parser Ident).run ts = some (i, rest) at h
  split at h
  · match ts, h with
    | .ident _ :: _, h =>
      cases h
      exact List.mem_cons_self
  · cases h

/-- what is read of a trait up to its parameters has a name of the run -/
theorem traitOpening_name {g : Nested} {attributes : List Attribute} {visible ts rest : Tokens} {t : TraitDecl}
    (h : (traitOpening g attributes visible).run ts = some (t, rest)) : Tree.ident t.name ∈ ts := by
  obtain ⟨⟨_, ts₁⟩, h₁, h⟩ := Option.bind_eq_some_iff.mp h
  obtain ⟨⟨_, ts₂⟩, h₂, h⟩ := Option.bind_eq_some_iff.mp h
  obtain ⟨⟨_, ts₃⟩, h₃, h⟩ := Option.bind_eq_some_iff.mp h
  obtain ⟨⟨name, ts₄⟩, h₄, h⟩ := Option.bind_eq_some_iff.mp h
  obtain ⟨⟨_, ts₅⟩, -, h⟩ := Option.bind_eq_some_iff.mp h
  cases h
  have sub₁ := (Parser.shrinks_keyword "unsafe").optional ts _ ts₁ h₁
  have sub₂ := (Parser.shrinks_keyword "auto").optional ts₁ _ ts₂ h₂
  have sub₃ := Parser.shrinks_keyword "trait" ts₂ _ ts₃ h₃
  exact sub₁ (sub₂ (sub₃ (identifier_mem h₄)))

theorem traitRest_name {g : Nested} {ts rest : Tokens} {t u : TraitDecl}
    (h : (traitRest g t).run ts = some (u, rest)) : u.name = t.name := by
  obtain ⟨⟨_, ts₁⟩, -, h⟩ := Option.bind_eq_some_iff.mp h
  obtain ⟨⟨_, ts₂⟩, -, h⟩ := Option.bind_eq_some_iff.mp h
  obtain ⟨⟨_, ts₃⟩, -, h⟩ := Option.bind_eq_some_iff.mp h
  cases h
  rfl

/-- the name of a trait is an identifier of the run that it is read from -/
theorem traitDecl_name {g : Nested} {ts rest : Tokens} {t : TraitDecl}
    (h : (traitDecl g).run ts = some (t, rest)) : Tree.ident t.name ∈ ts := by
  obtain ⟨⟨outer, ts₁⟩, h₁, h⟩ := Option.bind_eq_some_iff.mp h
  obtain ⟨⟨visible, ts₂⟩, h₂, h⟩ := Option.bind_eq_some_iff.mp h
  obtain ⟨⟨opened, ts₃⟩, h₃, h⟩ := Option.bind_eq_some_iff.mp h
  rw [traitRest_name h]
  have sub₁ := shrinks_outerAttributes g ts outer ts₁ h₁
  have sub₂ := shrinks_visibility ts₁ visible ts₂ h₂
  exact sub₁ (sub₂ (traitOpening_name h₃))

end Grammar

/-! ## Services of texts -/

/-- the name of a trait that is read is plain unless it is raw -/
theorem TraitDecl.read?_isPlain {text : String} {t : TraitDecl} (h : TraitDecl.read? text = some t)
    (raw : t.name.raw = false) : t.name.IsPlain := by
  obtain ⟨ts, lexed, h⟩ := Option.bind_eq_some_iff.mp h
  unfold whole at h
  split at h
  · next u parsed =>
    cases h
    have spelled := Tokens.ofText?_spelled lexed _ (Grammar.traitDecl_name parsed) _ rfl
    rw [Ident.IsPlain, Ident.ofText?_eq, if_pos spelled, Ident.plain, ← raw]
  · cases h

theorem Expansion.ofService?_of_isPlain {s : ServiceDef} (h : s.name.IsPlain) :
    ∃ e, Expansion.ofService? s = some e := by
  obtain ⟨constant, hc⟩ := ServiceDef.descriptorName?_of_isPlain h
  simp [Expansion.ofService?, Descriptor.ofService?, Proxy.ofService?, hc]

/-- a service that texts declare has all its code unless its name is raw -/
theorem ServiceDef.ofText_expands {trait arguments : String} {s : ServiceDef}
    (h : ServiceDef.ofText trait arguments = .ok s) (raw : s.name.raw = false) :
    ∃ e, Expansion.ofService? s = some e := by
  unfold ofText at h
  split at h
  · next t l read _ =>
    cases declared : ofTrait t l with
    | error e => simp [declared, Except.mapError] at h
    | ok u =>
      simp only [declared, Except.mapError, Except.ok.injEq] at h
      subst h
      have name := (ofTrait_ok declared).1
      rw [name] at raw
      exact Expansion.ofService?_of_isPlain (name ▸ TraitDecl.read?_isPlain read raw)
  · cases h

end Loopback.Declaration
