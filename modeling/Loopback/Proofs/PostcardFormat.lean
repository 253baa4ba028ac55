/-
The Postcard format.

`Packs` has one rule for each form of data: one byte for numbers of eight bits and for flags, groups of seven bits for
the wider ones, signed ones interleaved, little-endian bits for floating-point numbers, a length before what has one, a
byte before what is optional, the fields of a record in order, the number of a variant before its content. Nothing packs
a list whose length is not announced or a variant that no format has.
- `Packs.unique`: data have at most one form;
- `write_eq_ok_iff`: the bytes written for a value are those of the format;
- `write_eq_error_iff`: a value is not written exactly when it contains one that has no form;
- `postcard_round_trip`: what the codec encodes, and what comes back.
-/
import Loopback.Proofs.Datum
import Loopback.Proofs.PostcardRoundTrip

namespace Loopback.Postcard

open Sample

/-! ## The format -/

/-- the shortest groups of seven bits of a number, the lowest first; all but the last have their top bit set -/
inductive Groups : Nat → Bytes → Prop
  | last (b : UInt8) (h : b.toNat < 128) : Groups b.toNat [b]
  | more (b : UInt8) (h : 128 ≤ b.toNat) {n : Nat} {bs : Bytes} (rest : Groups n bs) (pos : 0 < n) :
    Groups (b.toNat - 128 + 128 * n) (b :: bs)

/-- the bytes of items one after the other -/
inductive Joined {α : Type} (R : α → Bytes → Prop) : List α → Bytes → Prop
  | nil : Joined R [] []
  | cons {a : α} {l : List α} {bs cs : Bytes} (head : R a bs) (tail : Joined R l cs) : Joined R (a :: l) (bs ++ cs)

/-- the bytes of data -/
inductive Packs : Datum → Bytes → Prop
  | byte (b : UInt8) : Packs (.natural 8 b.toNat) [b]
  | word {bits n : Nat} {bs : Bytes} (h : 8 < bits) (hn : Groups n bs) : Packs (.natural bits n) bs
  /-- the two's complement -/
  | signedByte (b : UInt8) : Packs (.integer 8 b.toInt8.toInt) [b]
  | nonnegative {bits n : Nat} {bs : Bytes} (h : 8 < bits) (hn : Groups (2 * n) bs) : Packs (.integer bits (.ofNat n)) bs
  | negative {bits n : Nat} {bs : Bytes} (h : 8 < bits) (hn : Groups (2 * n + 1) bs) :
    Packs (.integer bits (.negSucc n)) bs
  | no : Packs (.flag false) [0]
  | yes : Packs (.flag true) [1]
  | char {c : Char} {len : Bytes} (h : Groups (Text.utf8 c.toString).length len) :
    Packs (.char c) (len ++ Text.utf8 c.toString)
  | single {n : UInt32} {bs : Bytes} (h : bs.length = 4) (hn : ofLittleEndian bs = n.toNat) : Packs (.single n) bs
  | double {n : UInt64} {bs : Bytes} (h : bs.length = 8) (hn : ofLittleEndian bs = n.toNat) : Packs (.double n) bs
  | unit : Packs .unit []
  | text {s : String} {len : Bytes} (h : Groups (Text.utf8 s).length len) : Packs (.text s) (len ++ Text.utf8 s)
  | absent : Packs .absent [0]
  | present {d : Datum} {bs : Bytes} (h : Packs d bs) : Packs (.present d) (1 :: bs)
  | list {l : List Datum} {len bs : Bytes} (h : Groups l.length len) (hl : Joined Packs l bs) : Packs (.list l) (len ++ bs)
  /-- each key is followed by its value -/
  | map {l : List (Datum × Datum)} {len bs : Bytes} (h : Groups l.length len)
    (hl : Joined Packs (l.flatMap fun e => [e.1, e.2]) bs) : Packs (.map l) (len ++ bs)
  | tuple {l : List Datum} {bs : Bytes} (hl : Joined Packs l bs) : Packs (.tuple l) bs
  | record {l : List (String × Datum)} {bs : Bytes} (hl : Joined Packs (l.map (·.2)) bs) : Packs (.record l) bs
  | label {index : Nat} {name : String} {bs : Bytes} (h : Groups index bs) : Packs (.label index name) bs
  | variant {index : Nat} {name : String} {d : Datum} {number bs : Bytes} (h : Groups index number) (hd : Packs d bs) :
    Packs (.variant index name d) (number ++ bs)

/-! ## Uniqueness -/

section Uniqueness

variable {α : Type} {R : α → Bytes → Prop} {bs bs' : Bytes}

/-- a number has one form -/
theorem Groups.unique {n : Nat} (h : Groups n bs) (h' : Groups n bs') : bs = bs' := by
  induction h generalizing bs' with
  | last b hb =>
    generalize hm : b.toNat = m at h' hb
    cases h' with
    | last b' hb' => rw [UInt8.toNat_inj.1 hm]
    | more b' hb' rest pos => omega
  | @more b hb n cs rest pos ih =>
    generalize hm : b.toNat - 128 + 128 * n = m at h'
    cases h' with
    | last b' hb' => omega
    | @more b' hb' n' cs' rest' pos' =>
      have small := b.toNat_lt
      have small' := b'.toNat_lt
      -- the low seven bits and the rest agree
      have high : n' = n := by omega
      have low : b = b' := UInt8.toNat_inj.1 (by omega)
      subst high
      rw [low, ih rest']

theorem Joined.unique {l : List α} (hl : ∀ a ∈ l, ∀ bs bs', R a bs → R a bs' → bs = bs') (h : Joined R l bs)
    (h' : Joined R l bs') : bs = bs' := by
  induction h generalizing bs' with
  | nil =>
    cases h'
    rfl
  | @cons a l bs cs head tail ih =>
    cases h' with
    | cons head' tail' =>
      rw [hl a List.mem_cons_self _ _ head head', ih (fun a ha => hl a (List.mem_cons_of_mem _ ha)) tail']

theorem ofLittleEndian_injective (hlen : bs.length = bs'.length) (h : ofLittleEndian bs = ofLittleEndian bs') :
    bs = bs' := by
  induction bs generalizing bs' with
  | nil => exact (List.eq_nil_of_length_eq_zero hlen.symm).symm
  | cons b bs ih =>
    cases bs' with
    | nil => cases hlen
    | cons b' bs' =>
      unfold ofLittleEndian at h
      have small := b.toNat_lt
      have small' := b'.toNat_lt
      have low : b = b' := UInt8.toNat_inj.1 (by omega)
      have high : ofLittleEndian bs = ofLittleEndian bs' := by omega
      rw [low, ih (Nat.succ.inj hlen) high]

/-- **One form.** Data have at most one form. -/
theorem Packs.unique {d : Datum} (h : Packs d bs) (h' : Packs d bs') : bs = bs' := by
  induction d using Datum.induct generalizing bs bs' with
  | natural bits n =>
    generalize hn : n = m at h'
    cases h with
    | byte b =>
      cases h' with
      | byte b' => rw [UInt8.toNat_inj.1 hn]
      | word wide => omega
    | word wide hw =>
      cases h' with
      | byte => omega
      | word wide' hw' => exact hw.unique (hn ▸ hw')
  | integer bits i =>
    generalize hi : i = j at h'
    cases h with
    | signedByte b =>
      cases h' with
      | signedByte b' =>
        have same : b = b' := congrArg Int8.toUInt8 (Int8.toInt_inj.1 hi)
        rw [same]
      | nonnegative wide => omega
      | negative wide => omega
    | nonnegative wide hw =>
      cases h' with
      | signedByte => omega
      | nonnegative wide' hw' =>
        cases hi
        exact hw.unique hw'
      | negative => cases hi
    | negative wide hw =>
      cases h' with
      | signedByte => omega
      | nonnegative => cases hi
      | negative wide' hw' =>
        cases hi
        exact hw.unique hw'
  | flag b =>
    cases h <;> cases h' <;> rfl
  | char c =>
    cases h with
    | char h =>
      cases h' with
      | char h' => rw [h.unique h']
  | single n =>
    cases h with
    | single h hn =>
      cases h' with
      | single h' hn' => exact ofLittleEndian_injective (h.trans h'.symm) (hn.trans hn'.symm)
  | double n =>
    cases h with
    | double h hn =>
      cases h' with
      | double h' hn' => exact ofLittleEndian_injective (h.trans h'.symm) (hn.trans hn'.symm)
  | unit =>
    cases h
    cases h'
    rfl
  | text s =>
    cases h with
    | text h =>
      cases h' with
      | text h' => rw [h.unique h']
  | absent =>
    cases h
    cases h'
    rfl
  | present d ih =>
    cases h with
    | present h =>
      cases h' with
      | present h' => rw [ih h h']
  | list l ih =>
    cases h with
    | list h hl =>
      cases h' with
      | list h' hl' => rw [h.unique h', hl.unique (fun d hd _ _ => ih d hd) hl']
  | stream l ih => cases h
  | map l ih =>
    have items : ∀ d ∈ l.flatMap (fun e => [e.1, e.2]), ∀ bs bs', Packs d bs → Packs d bs' → bs = bs' := by
      intro d hd bs bs' hb hb'
      obtain ⟨e, he, hd⟩ := List.mem_flatMap.1 hd
      rcases List.mem_cons.1 hd with rfl | hd
      · exact (ih e he).1 hb hb'
      · cases List.mem_singleton.1 hd
        exact (ih e he).2 hb hb'
    cases h with
    | map h hl =>
      cases h' with
      | map h' hl' => rw [h.unique h', hl.unique items hl']
  | tuple l ih =>
    cases h with
    | tuple hl =>
      cases h' with
      | tuple hl' => exact hl.unique (fun d hd _ _ => ih d hd) hl'
  | record l ih =>
    have fields : ∀ d ∈ l.map (·.2), ∀ bs bs', Packs d bs → Packs d bs' → bs = bs' := by
      intro d hd bs bs' hb hb'
      obtain ⟨f, hf, rfl⟩ := List.mem_map.1 hd
      exact ih f hf hb hb'
    cases h with
    | record hl =>
      cases h' with
      | record hl' => exact hl.unique fields hl'
  | label i name =>
    cases h with
    | label h =>
      cases h' with
      | label h' => exact h.unique h'
  | variant i name d ih =>
    cases h with
    | variant h hd =>
      cases h' with
      | variant h' hd' => rw [h.unique h', ih hd hd']
  | hidden => cases h

end Uniqueness

/-! ## What is written -/

section Written

variable {α : Type}

theorem groups_word (n : Nat) : Groups n (word n) := by
  unfold word
  induction n using Nat.strongRecOn with
  | ind n ih =>
    rw [Varint.write]
    split
    · next h =>
      have hb : (UInt8.ofNat n).toNat = n := by simp; omega
      have last := Groups.last (UInt8.ofNat n) (by omega)
      rw [hb] at last
      exact last
    · next h =>
      have hb : (UInt8.ofNat (n % 128 + 128)).toNat = n % 128 + 128 := by simp; omega
      have more := Groups.more (UInt8.ofNat (n % 128 + 128)) (by omega) (ih (n / 128) (by omega)) (by omega)
      have value : n % 128 + 128 - 128 + 128 * (n / 128) = n := by omega
      rw [hb, value] at more
      exact more

theorem packs_word {bits : Nat} (h : 8 < bits) (n : Nat) : Packs (.natural bits n) (word n) := .word h (groups_word n)

theorem packs_signed {bits : Nat} (h : 8 < bits) (i : Int) : Packs (.integer bits i) (signed i) := by
  unfold signed
  cases i with
  | ofNat n =>
    have interleaved : Varint.zigzag (.ofNat n) = 2 * n := by
      unfold Varint.zigzag
      rw [if_pos (show 0 ≤ Int.ofNat n from Int.natCast_nonneg n)]
      rfl
    rw [interleaved]
    exact .nonnegative h (groups_word _)
  | negSucc n =>
    have interleaved : Varint.zigzag (.negSucc n) = 2 * n + 1 := by
      unfold Varint.zigzag
      rw [if_neg (by omega)]
      omega
    rw [interleaved]
    exact .negative h (groups_word _)

theorem packs_text (s : String) : Packs (.text s) (text s) := .text (groups_word _)

theorem packs_option {g : α → Datum} {f : α → Bytes} (h : ∀ a, Packs (g a) (f a)) (o : Option α) :
    Packs (.optional g o) (option f o) := by
  cases o with
  | none => exact .absent
  | some a => exact .present (h a)

namespace Joined

variable {R : α → Bytes → Prop} {a : α} {l l' : List α} {bs cs : Bytes}

theorem single (h : R a bs) : Joined R [a] bs := by
  have one : Joined R [a] (bs ++ []) := .cons h .nil
  rw [List.append_nil] at one
  exact one

theorem append (h : Joined R l bs) (h' : Joined R l' cs) : Joined R (l ++ l') (bs ++ cs) := by
  induction h with
  | nil => exact h'
  | cons head tail ih =>
    rw [List.append_assoc]
    exact .cons head ih

theorem exists_of_mem (h : Joined R l bs) (ha : a ∈ l) : ∃ cs, R a cs := by
  induction h with
  | nil => cases ha
  | cons head tail ih =>
    rcases List.mem_cons.1 ha with rfl | ha
    · exact ⟨_, head⟩
    · exact ih ha

end Joined

/-- items that are written one after the other, each as the data `g` gives for it -/
theorem joined_writeEach {w : α → Except WriteError Bytes} {g : α → List Datum} (l : List α)
    (h : ∀ a ∈ l, ∀ bs, w a = .ok bs → Joined Packs (g a) bs) {bs : Bytes} (hw : writeEach w l = .ok bs) :
    Joined Packs (l.flatMap g) bs := by
  induction l generalizing bs with
  | nil =>
    cases hw
    exact .nil
  | cons a l ih =>
    obtain ⟨b, hb, hw⟩ := bind_eq_ok hw
    obtain ⟨c, hc, hw⟩ := bind_eq_ok hw
    cases hw
    rw [List.flatMap_cons]
    exact (h a List.mem_cons_self b hb).append (ih (fun a ha => h a (List.mem_cons_of_mem _ ha)) hc)

theorem packs_list {g : α → Datum} {f : α → Bytes} (h : ∀ a, Packs (g a) (f a)) (l : List α) :
    Packs (.list (l.map g)) (list f l) := by
  have items : Joined Packs (l.flatMap fun a => [g a]) (l.flatMap f) := by
    refine joined_writeEach l (fun a _ bs hw => ?_) (writeEach_ok f l)
    cases hw
    exact .single (h a)
  rw [← List.map_eq_flatMap] at items
  refine .list ?_ items
  rw [List.length_map]
  exact groups_word _

theorem packs_entries {κ : Type} {k g : κ × α → Datum} {f : κ × α → Bytes} (l : List (κ × α))
    (h : ∀ e, Joined Packs [k e, g e] (f e)) : Packs (.map (l.map fun e => (k e, g e))) (list f l) := by
  have items : Joined Packs (l.flatMap fun e => [k e, g e]) (l.flatMap f) := by
    refine joined_writeEach l (fun e _ bs hw => ?_) (writeEach_ok f l)
    cases hw
    exact h e
  refine .map ?_ ?_
  · rw [List.length_map]
    exact groups_word _
  · rw [List.flatMap_map]
    exact items

/-! ## Records and errors -/

theorem packs_texts (l : List String) : Packs (.ofTexts l) (list text l) := packs_list packs_text l

theorem packs_bytes (bs : Bytes) : Packs (.ofBytes bs) (list (fun b => [b]) bs) := packs_list .byte bs

theorem packs_user (u : User) : Packs (.ofUser u) (user u) :=
  .record (.cons (packs_word (by decide) _) (.single (packs_text _)))

theorem packs_limits (m : Dict String UInt32) : Packs (.ofLimits m) (map (fun n => word n.toNat) m) :=
  packs_entries m.entries fun _ => .cons (packs_text _) (.single (packs_word (by decide) _))

theorem joined_holding (h : Holding) : Joined Packs ((Datum.ofAccount.own h).map (·.2)) (holding h) := by
  unfold holding
  simp only [List.append_assoc]
  exact .cons (packs_word (by decide) _) (.cons (packs_text _) (.cons (packs_signed (by decide) _)
    (.cons (packs_texts _) (.single (packs_limits _)))))

theorem packs_account (h : Holding) (l : List Holding) : Packs (.ofAccount h l) (chain holding h l) := by
  induction l generalizing h with
  | nil =>
    refine .record ?_
    rw [List.map_append]
    exact (joined_holding h).append (.single .absent)
  | cons p l ih =>
    refine .record ?_
    rw [List.map_append]
    exact (joined_holding h).append (.single (.present (ih p)))

theorem packs_shape (s : Shape) : Packs (.ofShape s) (shape s) := by
  cases s with
  | empty => exact .label (groups_word 0)
  | circle r => exact .variant (groups_word 1) (packs_word (by decide) _)
  | rect w h =>
    rw [shape, List.append_assoc]
    exact .variant (groups_word 2) (.tuple (.cons (packs_signed (by decide) _) (.single (packs_signed (by decide) _))))
  | named name sides =>
    rw [shape, List.append_assoc]
    exact .variant (groups_word 3) (.record (.cons (packs_text _) (.single (packs_option .byte sides))))

theorem packs_links (l : Link) (r : List Link) : Packs (.ofLinks l r) (chain link l r) := by
  have own (l : Link) : Joined Packs ((Datum.ofLinks.own l).map (·.2)) (link l) :=
    .cons (packs_text _) (.single (packs_text _))
  induction r generalizing l with
  | nil =>
    refine .record ?_
    rw [List.map_append]
    exact (own l).append (.single .absent)
  | cons s r ih =>
    refine .record ?_
    rw [List.map_append]
    exact (own l).append (.single (.present (ih s)))

theorem packs_capturedFailure (f : CapturedFailure) : Packs (.ofCapturedFailure f) (capturedFailure f) :=
  packs_links f.head f.sources

theorem packs_remoteCause (c : RemoteCause) : Packs (.ofRemoteCause c) (remoteCause c) := by
  unfold remoteCause
  rw [List.append_assoc]
  exact .record (.cons (packs_text _) (.cons (packs_text _) (.single (packs_option packs_bytes _))))

theorem packs_remoteFailure (f : RemoteFailure) : Packs (.ofRemoteFailure f) (remoteFailure f) := by
  unfold remoteFailure
  rw [List.append_assoc]
  exact .record (.cons (packs_text _) (.cons (packs_text _) (.single (packs_list packs_remoteCause _))))

theorem packs_invocationError (e : InvocationError) : Packs (.ofInvocationError e) (invocationError e) := by
  have message {i : Nat} {name : String} (m : String) :
      Packs (.variant i name (.record [("message", .text m)])) (word i ++ text m) :=
    .variant (groups_word i) (.record (.single (packs_text m)))
  cases e with
  | configuration m => exact message m
  | localAccess m cause =>
    rw [invocationError, List.append_assoc]
    exact .variant (groups_word 1) (.record (.cons (packs_text _) (.single (packs_option packs_capturedFailure _))))
  | remote f => exact .variant (groups_word 2) (packs_remoteFailure f)
  | codec m => exact message m
  | protocol m => exact message m

theorem packs_userError {e : UserError} {bs : Bytes} (h : userError e = .ok bs) : Packs (.ofUserError e) bs := by
  cases e with
  | notFound id =>
    cases h
    exact .variant (groups_word 0) (packs_word (by decide) _)
  | rejected name reason =>
    cases h
    rw [List.append_assoc]
    exact .variant (groups_word 1) (.record (.cons (packs_text _) (.single (packs_text _))))
  | importFailed file source =>
    cases h
    rw [List.append_assoc]
    exact .variant (groups_word 2) (.record (.cons (packs_text _) (.single (packs_capturedFailure _))))
  | invocation e =>
    cases h
    exact .variant (groups_word 3) (packs_invocationError e)
  | secret => cases h

theorem packs_bufferError (e : BufferError) : Packs (.ofBufferError e) (bufferError e) := by
  cases e with
  | missing => exact .label (groups_word 0)
  | invocation e => exact .variant (groups_word 1) (packs_invocationError e)

theorem packs_calcError (e : CalcError) : Packs (.ofCalcError e) (calcError e) := by
  cases e with
  | divisionByZero => exact .label (groups_word 0)
  | invocation e => exact .variant (groups_word 1) (packs_invocationError e)

end Written

/-! ## Values -/

/-- **Writing in the format.** The bytes that are written for a value are those of what it is made of. -/
theorem packs_of_write {t : Ty} {v : t.Val} {bs : Bytes} (h : write t v = .ok bs) : Packs (t.datum v) bs := by
  induction t generalizing bs with
  | u8 =>
    cases h
    exact .byte v
  | u16 | u32 | u64 | usize =>
    cases h
    exact packs_word (by decide) _
  | i8 =>
    cases h
    exact .signedByte _
  | i16 | i32 | i64 =>
    cases h
    exact packs_signed (by decide) _
  | bool =>
    cases h
    cases v with
    | false => exact .no
    | true => exact .yes
  | char =>
    cases h
    exact .char (groups_word _)
  | f32 =>
    cases h
    refine .single (length_littleEndian 4 _) ?_
    rw [ofLittleEndian_littleEndian]
    exact Nat.mod_eq_of_lt (UInt32.toNat_lt v)
  | f64 =>
    cases h
    refine .double (length_littleEndian 8 _) ?_
    rw [ofLittleEndian_littleEndian]
    exact Nat.mod_eq_of_lt (UInt64.toNat_lt v)
  | unit =>
    cases h
    exact .unit
  | text =>
    cases h
    exact packs_text v
  | list t ih =>
    obtain ⟨cs, hcs, h⟩ := bind_eq_ok h
    cases h
    have items : Joined Packs (v.flatMap fun a => [t.datum a]) cs :=
      joined_writeEach v (fun a _ bs hw => .single (ih hw)) hcs
    rw [← List.map_eq_flatMap] at items
    refine .list ?_ items
    rw [List.length_map]
    exact groups_word _
  | option t ih =>
    cases v with
    | none =>
      cases h
      exact .absent
    | some a =>
      obtain ⟨cs, hcs, h⟩ := bind_eq_ok h
      cases h
      exact .present (ih hcs)
  | map t ih =>
    obtain ⟨cs, hcs, h⟩ := bind_eq_ok h
    cases h
    have items : Joined Packs (v.entries.flatMap fun e => [.text e.1, t.datum e.2]) cs := by
      refine joined_writeEach v.entries (fun e _ bs hw => ?_) hcs
      obtain ⟨b, hb, hw⟩ := bind_eq_ok hw
      cases hw
      exact .cons (packs_text _) (.single (ih hb))
    refine .map ?_ ?_
    · rw [List.length_map]
      exact groups_word _
    · rw [List.flatMap_map]
      exact items
  | pair a b iha ihb =>
    obtain ⟨x, y⟩ := v
    obtain ⟨bs, hbs, h⟩ := bind_eq_ok h
    obtain ⟨cs, hcs, h⟩ := bind_eq_ok h
    cases h
    exact .tuple (.cons (iha hbs) (.single (ihb hcs)))
  | triple a b c iha ihb ihc =>
    obtain ⟨x, y, z⟩ := v
    obtain ⟨bs, hbs, h⟩ := bind_eq_ok h
    obtain ⟨cs, hcs, h⟩ := bind_eq_ok h
    obtain ⟨ds, hds, h⟩ := bind_eq_ok h
    cases h
    rw [List.append_assoc]
    exact .tuple (.cons (iha hbs) (.cons (ihb hcs) (.single (ihc hds))))
  | user =>
    cases h
    exact packs_user v
  | account =>
    cases h
    exact packs_account _ _
  | shape =>
    cases h
    exact packs_shape v
  | lazySeq => cases h
  | pairMap =>
    cases h
    refine packs_entries v.entries.entries fun e => ?_
    have key : Packs (.tuple [.natural 8 e.1.1.toNat, .natural 8 e.1.2.toNat]) [e.1.1, e.1.2] :=
      .tuple (.cons (Packs.byte e.1.1) (.single (Packs.byte e.1.2)))
    exact .cons key (.single (.byte _))
  | userError => exact packs_userError h
  | bufferError =>
    cases h
    exact packs_bufferError v
  | calcError =>
    cases h
    exact packs_calcError v
  | capturedFailure =>
    cases h
    exact packs_capturedFailure v
  | invocationError =>
    cases h
    exact packs_invocationError v
  | remoteFailure =>
    cases h
    exact packs_remoteFailure v

/-! ## What is not written -/

/-- a value of its own that has no bytes: a list whose length is not announced, or the variant without an encoding -/
def Lacks : (t : Ty) → t.Val → Prop
  | .lazySeq, _ => True
  | .userError, e => e = .secret
  | _, _ => False

/-- a value that contains one without bytes has no form -/
theorem not_packs_of_contains {t : Ty} {v : t.Val} (h : t.Contains Lacks v) (bs : Bytes) : ¬Packs (t.datum v) bs := by
  intro hp
  induction t generalizing bs with
  | list t ih =>
    obtain ⟨a, ha, h⟩ := h
    cases hp with
    | list hn hl =>
      obtain ⟨cs, hcs⟩ := hl.exists_of_mem (List.mem_map_of_mem ha)
      exact ih h cs hcs
  | option t ih =>
    obtain ⟨a, rfl, h⟩ := h
    cases hp with
    | present hp => exact ih h _ hp
  | map t ih =>
    obtain ⟨e, he, h⟩ := h
    cases hp with
    | map hn hl =>
      have inside : t.datum e.2 ∈ (v.entries.map fun e => (Datum.text e.1, t.datum e.2)).flatMap fun e => [e.1, e.2] := by
        rw [List.flatMap_map]
        exact List.mem_flatMap.2 ⟨e, he, List.mem_cons_of_mem _ (List.mem_singleton_self _)⟩
      obtain ⟨cs, hcs⟩ := hl.exists_of_mem inside
      exact ih h cs hcs
  | pair a b iha ihb =>
    cases hp with
    | tuple hl =>
      rcases h with h | h
      · obtain ⟨cs, hcs⟩ := hl.exists_of_mem (a := a.datum v.1) (by simp)
        exact iha h cs hcs
      · obtain ⟨cs, hcs⟩ := hl.exists_of_mem (a := b.datum v.2) (by simp)
        exact ihb h cs hcs
  | triple a b c iha ihb ihc =>
    cases hp with
    | tuple hl =>
      rcases h with h | h | h
      · obtain ⟨cs, hcs⟩ := hl.exists_of_mem (a := a.datum v.1) (by simp)
        exact iha h cs hcs
      · obtain ⟨cs, hcs⟩ := hl.exists_of_mem (a := b.datum v.2.1) (by simp)
        exact ihb h cs hcs
      · obtain ⟨cs, hcs⟩ := hl.exists_of_mem (a := c.datum v.2.2) (by simp)
        exact ihc h cs hcs
  | lazySeq => cases hp
  | userError =>
    have secret : v = UserError.secret := h
    rw [secret] at hp
    cases hp
  | _ => exact h

/-- items are written unless one of them is not -/
theorem exists_of_writeEach_error {α : Type} {w : α → Except WriteError Bytes} {l : List α} {e : WriteError}
    (h : writeEach w l = .error e) : ∃ a ∈ l, w a = .error e := by
  induction l with
  | nil => cases h
  | cons a l ih =>
    unfold writeEach at h
    cases ha : w a with
    | error e' =>
      rw [ha] at h
      cases h
      exact ⟨a, List.mem_cons_self, ha⟩
    | ok bs =>
      rw [ha] at h
      cases hl : writeEach w l with
      | error e' =>
        rw [hl] at h
        cases h
        obtain ⟨b, hb, hw⟩ := ih hl
        exact ⟨b, List.mem_cons_of_mem _ hb, hw⟩
      | ok cs =>
        rw [hl] at h
        cases h

/-- an error of a step, or of what follows it -/
theorem bind_eq_error {ε α β : Type} {x : Except ε α} {k : α → Except ε β} {e : ε} (h : x >>= k = .error e) :
    x = .error e ∨ ∃ a, x = .ok a ∧ k a = .error e := by
  cases x with
  | error e' =>
    cases h
    exact .inl rfl
  | ok a => exact .inr ⟨a, rfl, h⟩

theorem contains_of_write_error {t : Ty} {v : t.Val} {e : WriteError} (h : write t v = .error e) :
    t.Contains Lacks v := by
  induction t with
  | list t ih =>
    rcases bind_eq_error h with h | ⟨_, _, h⟩
    · obtain ⟨a, ha, hw⟩ := exists_of_writeEach_error h
      exact ⟨a, ha, ih hw⟩
    · cases h
  | option t ih =>
    cases v with
    | none => cases h
    | some a =>
      rcases bind_eq_error h with h | ⟨_, _, h⟩
      · exact ⟨a, rfl, ih h⟩
      · cases h
  | map t ih =>
    rcases bind_eq_error h with h | ⟨_, _, h⟩
    · obtain ⟨a, ha, hw⟩ := exists_of_writeEach_error h
      rcases bind_eq_error hw with hw | ⟨_, _, hw⟩
      · exact ⟨a, ha, ih hw⟩
      · cases hw
    · cases h
  | pair a b iha ihb =>
    obtain ⟨x, y⟩ := v
    rcases bind_eq_error h with h | ⟨_, _, h⟩
    · exact .inl (iha h)
    · rcases bind_eq_error h with h | ⟨_, _, h⟩
      · exact .inr (ihb h)
      · cases h
  | triple a b c iha ihb ihc =>
    obtain ⟨x, y, z⟩ := v
    rcases bind_eq_error h with h | ⟨_, _, h⟩
    · exact .inl (iha h)
    · rcases bind_eq_error h with h | ⟨_, _, h⟩
      · exact .inr (.inl (ihb h))
      · rcases bind_eq_error h with h | ⟨_, _, h⟩
        · exact .inr (.inr (ihc h))
        · cases h
  | lazySeq => trivial
  | userError =>
    cases v with
    | secret => rfl
    | _ => cases h
  | _ => cases h

variable {t : Ty} {v : t.Val}

/-- **What is written.** Bytes are written for a value exactly when they are those of what it is made of. -/
theorem write_eq_ok_iff {bs : Bytes} : write t v = .ok bs ↔ Packs (t.datum v) bs := by
  constructor
  · exact packs_of_write
  · intro hp
    cases hw : write t v with
    | error e => exact absurd hp (not_packs_of_contains (contains_of_write_error hw) bs)
    | ok cs => rw [hp.unique (packs_of_write hw)]

/-- **What is not written.** A value is not written exactly when it contains one without bytes. -/
theorem write_eq_error_iff : (∃ e, write t v = .error e) ↔ t.Contains Lacks v := by
  constructor
  · rintro ⟨e, he⟩
    exact contains_of_write_error he
  · intro h
    cases hw : write t v with
    | error e => exact ⟨e, rfl⟩
    | ok bs => exact absurd (packs_of_write hw) (not_packs_of_contains h bs)

end Loopback.Postcard

/-! ## The codec -/

namespace Loopback

theorem Codec.postcard_encode_eq_error_iff {limit : Option Nat} {t : Ty} {v : t.Val} :
    (∃ e, (postcard limit).encode t v = .error e) ↔ ∃ e, Postcard.write t v = .error e := by
  unfold postcard
  dsimp only
  cases Postcard.write t v <;> simp

/-- more bytes than the limit are refused, whatever they are -/
theorem Codec.postcard_decode_of_lt {t : Ty} {bs : Bytes} {n : Nat} (h : n < bs.length) :
    (postcard (some n)).decode t bs = .error (.tooLarge .decode bs.length n) := by
  unfold postcard
  dsimp only
  rw [Option.filter_some, if_pos (decide_eq_true h)]

/-- **Postcard.** For every type and every value of it, with or without a limit on the bytes to decode:
- the codec encodes nothing exactly when the value contains a list whose length is not announced or the variant without
  an encoding;
- else it encodes the bytes that the format has for the value, and no others;
- if the lengths in the value fit a word, these bytes with any others after them decode to the value exactly when they
  are not more than the limit, and any more are refused for their number. -/
theorem postcard_round_trip (t : Ty) (v : t.Val) (limit : Option Nat) :
    ((∃ e, (Codec.postcard limit).encode t v = .error e) ↔ t.Contains Postcard.Lacks v) ∧
    ∀ bs, ((Codec.postcard limit).encode t v = .ok bs ↔ Postcard.Packs (t.datum v) bs) ∧
      ((Codec.postcard limit).encode t v = .ok bs → Postcard.Fits t v → ∀ (limit' : Option Nat) (rest : Bytes),
        ((Codec.postcard limit').decode t (bs ++ rest) = .ok v ↔ ∀ n ∈ limit', (bs ++ rest).length ≤ n) ∧
        ∀ n ∈ limit', n < (bs ++ rest).length →
          (Codec.postcard limit').decode t (bs ++ rest) = .error (.tooLarge .decode (bs ++ rest).length n)) := by
  refine ⟨Codec.postcard_encode_eq_error_iff.trans Postcard.write_eq_error_iff, fun bs => ⟨?_, ?_⟩⟩
  · exact Codec.postcard_encode_eq_ok_iff.trans Postcard.write_eq_ok_iff
  · intro encoded fits limit' rest
    have written : Postcard.write t v = .ok bs := Codec.postcard_encode_eq_ok_iff.1 encoded
    have read : Postcard.read t (bs ++ rest) = .ok v := by
      unfold Postcard.read
      rcases Postcard.reads_of_write written rest with taken | ⟨long, -⟩
      · rw [taken]
        rfl
      · exact absurd fits long
    constructor
    · rw [Codec.postcard_decode_eq_ok_iff]
      exact and_iff_left read
    · rintro n rfl long
      exact Codec.postcard_decode_of_lt long

theorem postcard_round_trip_nested :
    (Codec.postcard none).encode (.pair (.list (.option (.option .u8))) .i64)
        ([some none, none, some (some 7)], -300) = .ok [3, 1, 0, 0, 1, 1, 7, 0xd7, 4] ∧
      (Codec.postcard (some 10)).decode (.pair (.list (.option (.option .u8))) .i64)
        ([3, 1, 0, 0, 1, 1, 7, 0xd7, 4] ++ [0xff]) = .ok ([some none, none, some (some 7)], -300) ∧
      (Codec.postcard (some 10)).decode (.pair (.list (.option (.option .u8))) .i64)
        ([3, 1, 0, 0, 1, 1, 7, 0xd7, 4] ++ [0xff, 0xff]) = .error (.tooLarge .decode 11 10) := by
  have encoded : (Codec.postcard none).encode (.pair (.list (.option (.option .u8))) .i64)
      ([some none, none, some (some 7)], -300) = .ok [3, 1, 0, 0, 1, 1, 7, 0xd7, 4] := by
    have count : Postcard.word 3 = [3] := by
      rw [Postcard.word, Varint.write, if_pos (by decide)]
      rfl
    have number : Postcard.signed (-300) = [0xd7, 4] := by
      have zigzag : Varint.zigzag (-300) = 599 := by decide
      rw [Postcard.signed, zigzag, Varint.write, if_neg (by decide), Varint.write, if_pos (by decide)]
      rfl
    refine Codec.postcard_encode_eq_ok_iff.2 ?_
    show Except.ok (Postcard.word 3 ++ [1, 0, 0, 1, 1, 7] ++ Postcard.signed (-300)) = _
    rw [count, number]
    rfl
  have fits : Postcard.Fits (.pair (.list (.option (.option .u8))) .i64) ([some none, none, some (some 7)], -300) := by
    refine ⟨⟨by decide, ?_⟩, trivial⟩
    simp [Postcard.Fits, Postcard.FitsOption]
  obtain ⟨-, law⟩ := postcard_round_trip (.pair (.list (.option (.option .u8))) .i64)
    ([some none, none, some (some 7)], -300) none
  have decoded := (law [3, 1, 0, 0, 1, 1, 7, 0xd7, 4]).2 encoded fits (some 10)
  refine ⟨encoded, (decoded [0xff]).1.2 ?_, (decoded [0xff, 0xff]).2 10 rfl (by decide)⟩
  rintro n hn
  cases hn
  decide

end Loopback
