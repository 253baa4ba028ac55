/-
Postcard bytes read back.

A reader reads bytes if, with anything after them, it gives their value and leaves what comes after. It does so for
every written value whose lengths fit a word (`Fits`); on longer ones it may only fail.
- `reads_of_write`: the bytes of a value read as the value, whatever follows them;
- `read_write`: the bytes of a value that fits give the value;
- `eq_of_read_write`: the bytes of a value never give another one.
-/
import Loopback.Codec

namespace Loopback

/-! ## Words -/

/-- a number that a word cannot hold is refused -/
theorem Varint.readPlaces_write_of_le {k top n : Nat} {rest : Bytes} (h : Nat.pow 128 k * (top + 1) ≤ n) :
    Varint.readPlaces (k + 1) top (Varint.write n ++ rest) = .error .tooLong := by
  induction k generalizing n with
  | zero =>
    have h : 1 * (top + 1) ≤ n := h
    rw [Varint.write]
    split
    · next hn =>
      have hb : (UInt8.ofNat n).toNat = n := by simp; omega
      rw [List.cons_append, Varint.readPlaces, hb, if_pos hn, if_pos ⟨rfl, by omega⟩]
    · next hn =>
      have hb : (UInt8.ofNat (n % 128 + 128)).toNat = n % 128 + 128 := by simp; omega
      rw [List.cons_append, Varint.readPlaces, hb, if_neg (by omega)]
      rfl
  | succ k ih =>
    have h : Nat.pow 128 k * 128 * (top + 1) ≤ n := h
    have hq : Nat.pow 128 k * (top + 1) ≤ n / 128 := by
      rw [Nat.le_div_iff_mul_le (by omega)]
      calc Nat.pow 128 k * (top + 1) * 128 = Nat.pow 128 k * 128 * (top + 1) := Nat.mul_right_comm _ _ _
        _ ≤ n := h
    have hn : ¬n < 128 := by
      have pos : 0 < Nat.pow 128 k * (top + 1) := Nat.mul_pos (Nat.pow_pos (by omega)) (by omega)
      omega
    have hb : (UInt8.ofNat (n % 128 + 128)).toNat = n % 128 + 128 := by simp; omega
    rw [Varint.write, if_neg hn, List.cons_append, Varint.readPlaces, hb, if_neg (by omega), ih hq]

theorem Varint.read_write_of_le {n : Nat} {rest : Bytes} (h : Nat.pow 2 64 ≤ n) :
    Varint.read 64 (Varint.write n ++ rest) = .error .tooLong :=
  @Varint.readPlaces_write_of_le 9 1 n rest h

/-- a signed number of `k + 1` bits is sent as a natural number of as many -/
theorem Varint.zigzag_lt {i : Int} {n : Nat} (hl : -(n : Int) ≤ i) (hu : i < n) : Varint.zigzag i < 2 * n := by
  unfold Varint.zigzag
  split <;> omega

namespace Postcard

open Sample

variable {α β : Type}

/-! ## Readers -/

/-- the reader gives `a` for `bs`, whatever follows, and leaves what follows; without `fits` it may fail -/
def Reads (fits : Prop) (r : Reader α) (bs : Bytes) (a : α) : Prop :=
  ∀ rest, r (bs ++ rest) = .ok (a, rest) ∨ ¬fits ∧ ∃ e, r (bs ++ rest) = .error e

namespace Reads

variable {f g : Prop} {r : Reader α} {bs cs : Bytes} {a : α} {b : β}

theorem pure : Reads f (Pure.pure a : Reader α) [] a := fun _ => .inl rfl

theorem bind {k : α → Reader β} (h : Reads f r bs a) (hk : Reads f (k a) cs b) : Reads f (r >>= k) (bs ++ cs) b := by
  intro rest
  rw [List.append_assoc]
  show Except.bind (r (bs ++ (cs ++ rest))) (fun p => k p.1 p.2) = _ ∨ _ ∧ ∃ e, Except.bind _ _ = _
  rcases h (cs ++ rest) with h | ⟨hf, e, h⟩
  · rw [h]
    exact hk rest
  · rw [h]
    exact .inr ⟨hf, e, rfl⟩

theorem bind_byte {k : α → Reader β} {c : UInt8} (h : Reads f r [c] a) (hk : Reads f (k a) cs b) :
    Reads f (r >>= k) (c :: cs) b := h.bind hk

theorem bind_nil {k : α → Reader β} (h : Reads f r bs a) (hk : Reads f (k a) [] b) : Reads f (r >>= k) bs b := by
  have hb : Reads f (r >>= k) (bs ++ []) b := h.bind hk
  rw [List.append_nil] at hb
  exact hb

/-- the last step of a reader -/
theorem last {k : α → β} (h : Reads f r bs a) : Reads f (r >>= fun a => Pure.pure (k a)) bs (k a) := h.bind_nil pure

theorem last_eq {k : α → β} (h : Reads f r bs a) (hk : k a = b) : Reads f (r >>= fun a => Pure.pure (k a)) bs b :=
  hk ▸ h.last

theorem mono (h : Reads g r bs a) (hfg : f → g) : Reads f r bs a := by
  intro rest
  rcases h rest with h | ⟨hg, h⟩
  · exact .inl h
  · exact .inr ⟨fun hf => hg (hfg hf), h⟩

end Reads

/-! ## Parts -/

section Parts

variable {f : Prop}

theorem takeByte_reads (b : UInt8) : Reads f takeByte [b] b := fun _ => .inl rfl

theorem takeBytes_reads (bs : Bytes) : Reads f (takeBytes bs.length) bs bs := by
  intro rest
  left
  unfold takeBytes
  rw [if_neg (by rw [List.length_append]; omega), List.take_left' rfl, List.drop_left' rfl]

theorem takeWord_reads {bits n : Nat} (hbits : bits ∈ [16, 32, 64]) (h : n < Nat.pow 2 bits) :
    Reads f (takeWord bits) (word n) n := by
  intro rest
  left
  unfold takeWord word
  rw [Varint.read_write hbits h]

theorem takeSigned_reads {bits : Nat} {i : Int} (hbits : bits ∈ [16, 32, 64]) (h : Varint.zigzag i < Nat.pow 2 bits) :
    Reads f (takeSigned bits) (signed i) i := by
  have read : Reads f (takeSigned bits) (signed i) (Varint.unzigzag (Varint.zigzag i)) := (takeWord_reads hbits h).last
  rw [Varint.unzigzag_zigzag] at read
  exact read

theorem takeVariant_reads {n : Nat} (h : n < 128) : Reads f takeVariant (word n) n :=
  takeWord_reads (by decide) (Nat.lt_trans h (by decide))

theorem takeLength_reads (n : Nat) : Reads (n < Nat.pow 2 64) takeLength (word n) n := by
  intro rest
  unfold takeLength takeWord word
  by_cases h : n < Nat.pow 2 64
  · rw [Varint.read_write (by decide) h]
    exact .inl rfl
  · rw [Varint.read_write_of_le (Nat.le_of_not_lt h)]
    exact .inr ⟨h, .badWord, rfl⟩

theorem takeFlag_reads (b : Bool) : Reads f takeFlag [if b then 1 else 0] b := by
  cases b <;> exact fun _ => .inl rfl

theorem ofLittleEndian_littleEndian (k n : Nat) : ofLittleEndian (littleEndian k n) = n % Nat.pow 256 k := by
  induction k generalizing n with
  | zero => exact (Nat.mod_one n).symm
  | succ k ih =>
    have hb : (UInt8.ofNat n).toNat = n % 256 := by simp
    rw [littleEndian, ofLittleEndian, ih, hb, show Nat.pow 256 (k + 1) = 256 * Nat.pow 256 k from Nat.pow_succ',
      Nat.mod_mul]

theorem length_littleEndian (k n : Nat) : (littleEndian k n).length = k := by
  induction k generalizing n with
  | zero => rfl
  | succ k ih => rw [littleEndian, List.length_cons, ih]

/-- `k` bytes give a number that fits in them -/
theorem takeBits_reads {k n : Nat} (h : n < Nat.pow 256 k) (g : Nat → α) :
    Reads f (takeBytes k >>= fun bs => Pure.pure (g (ofLittleEndian bs))) (littleEndian k n) (g n) := by
  have read : Reads f (takeBytes k) (littleEndian k n) (littleEndian k n) := by
    have bytes := takeBytes_reads (f := f) (littleEndian k n)
    rw [length_littleEndian] at bytes
    exact bytes
  have whole := read.last (k := fun bs => g (ofLittleEndian bs))
  rw [ofLittleEndian_littleEndian, Nat.mod_eq_of_lt h] at whole
  exact whole

end Parts

/-! ## Texts -/

/-- the length of the text fits a word -/
def FitsText (s : String) : Prop := (Text.utf8 s).length < Nat.pow 2 64

instance (s : String) : Decidable (FitsText s) := inferInstanceAs (Decidable (_ < _))

theorem takeText_reads (s : String) : Reads (FitsText s) takeText (text s) s := by
  have read : Reads (FitsText s) takeText (word (Text.utf8 s).length ++ (Text.utf8 s ++ [])) s := by
    refine .bind (takeLength_reads _) (.bind (takeBytes_reads _) ?_)
    rw [Text.ofUtf8?_utf8]
    exact .pure
  rw [List.append_nil] at read
  exact read

theorem utf8_singleton (c : Char) : Text.utf8 c.toString = String.utf8EncodeChar c := by
  simp [Text.utf8, Char.toString, List.utf8Encode_singleton]

theorem takeChar_reads {f : Prop} (c : Char) : Reads f takeChar (text c.toString) c := by
  have short : (Text.utf8 c.toString).length ≤ 4 := by
    rw [utf8_singleton, String.length_utf8EncodeChar]
    exact c.utf8Size_le_four
  have counted : (Text.utf8 c.toString).length < Nat.pow 2 64 := Nat.lt_of_le_of_lt short (by decide)
  have read : Reads f takeChar (word (Text.utf8 c.toString).length ++ (Text.utf8 c.toString ++ [])) c := by
    refine .bind ((takeLength_reads _).mono fun _ => counted) ?_
    dsimp only
    rw [if_neg (Nat.not_lt.2 short)]
    refine .bind (takeBytes_reads _) ?_
    rw [Text.ofUtf8?_utf8]
    simp only [Option.bind_some, Char.toString, String.toList_singleton, List.head?_cons]
    exact .pure
  rw [List.append_nil] at read
  exact read

/-! ## Lists, options and maps -/

theorem bind_eq_ok {ε : Type} {x : Except ε α} {k : α → Except ε β} {b : β} (h : x >>= k = .ok b) :
    ∃ a, x = .ok a ∧ k a = .ok b := by
  cases x with
  | error e => cases h
  | ok a => exact ⟨a, rfl, h⟩

/-- the length of the list fits a word, and so do the items -/
def FitsList (fits : α → Prop) (l : List α) : Prop := l.length < Nat.pow 2 64 ∧ ∀ a ∈ l, fits a

instance (fits : α → Prop) [DecidablePred fits] (l : List α) : Decidable (FitsList fits l) :=
  inferInstanceAs (Decidable (_ ∧ _))

def FitsOption (fits : α → Prop) : Option α → Prop
  | none => True
  | some a => fits a

instance (fits : α → Prop) [DecidablePred fits] : (o : Option α) → Decidable (FitsOption fits o)
  | none => inferInstanceAs (Decidable True)
  | some a => inferInstanceAs (Decidable (fits a))

def FitsMap (fits : α → Prop) (d : Dict String α) : Prop := FitsList (fun e => FitsText e.1 ∧ fits e.2) d.entries

section Items

variable {w : α → Except WriteError Bytes} {r : Reader α} {fits : α → Prop}

theorem takeItems_reads (h : ∀ a bs, w a = .ok bs → Reads (fits a) r bs a) (l : List α) {bs : Bytes}
    (hw : writeEach w l = .ok bs) : Reads (∀ a ∈ l, fits a) (takeItems r l.length) bs l := by
  induction l generalizing bs with
  | nil =>
    cases hw
    exact .pure
  | cons a l ih =>
    obtain ⟨b, hb, hw⟩ := bind_eq_ok hw
    obtain ⟨c, hc, hw⟩ := bind_eq_ok hw
    cases hw
    have first : Reads (∀ x ∈ a :: l, fits x) r b a := (h a b hb).mono fun hf => hf a List.mem_cons_self
    have others : Reads (∀ x ∈ a :: l, fits x) (takeItems r l.length) c l :=
      (ih hc).mono fun hf x hx => hf x (List.mem_cons_of_mem _ hx)
    exact first.bind others.last

theorem takeList_reads (h : ∀ a bs, w a = .ok bs → Reads (fits a) r bs a) (l : List α) {bs : Bytes}
    (hw : writeEach w l = .ok bs) : Reads (FitsList fits l) (takeList r) (word l.length ++ bs) l :=
  .bind ((takeLength_reads _).mono And.left) ((takeItems_reads h l hw).mono And.right)

theorem takeMap_reads (h : ∀ a bs, w a = .ok bs → Reads (fits a) r bs a) (d : Dict String α) {bs : Bytes}
    (hw : writeEach (fun e => do return text e.1 ++ (← w e.2)) d.entries = .ok bs) :
    Reads (FitsMap fits d) (takeMap r) (word d.size ++ bs) d := by
  have entry (e : String × α) (bs : Bytes) (he : (do return text e.1 ++ (← w e.2)) = .ok bs) :
      Reads (FitsText e.1 ∧ fits e.2) (do return (← takeText, ← r)) bs e := by
    obtain ⟨b, hb, he⟩ := bind_eq_ok he
    cases he
    have value : Reads (FitsText e.1 ∧ fits e.2) r b e.2 := (h _ _ hb).mono And.right
    exact .bind ((takeText_reads _).mono And.left) value.last
  have read := (takeList_reads entry d.entries hw).last (k := Dict.ofList)
  rw [Dict.ofList_entries] at read
  exact read

end Items

section Fields

variable {w : α → Bytes} {r : Reader α} {fits : α → Prop}

theorem writeEach_ok (w : α → Bytes) (l : List α) : writeEach (fun a => .ok (w a)) l = .ok (l.flatMap w) := by
  induction l with
  | nil => rfl
  | cons a l ih =>
    rw [writeEach, ih]
    rfl

theorem takeList_reads_list (h : ∀ a, Reads (fits a) r (w a) a) (l : List α) :
    Reads (FitsList fits l) (takeList r) (list w l) l := by
  refine takeList_reads (fun a bs hw => ?_) l (writeEach_ok w l)
  cases hw
  exact h a

theorem takeMap_reads_map (h : ∀ a, Reads (fits a) r (w a) a) (d : Dict String α) :
    Reads (FitsMap fits d) (takeMap r) (map w d) d := by
  refine takeMap_reads (w := fun a => .ok (w a)) (fun a bs hw => ?_) d (writeEach_ok _ _)
  cases hw
  exact h a

theorem takeOption_reads_none {f : Prop} : Reads f (takeOption r) [0] none :=
  .bind_byte (takeFlag_reads false) .pure

theorem takeOption_reads_some {f : Prop} {bs : Bytes} {a : α} (h : Reads f r bs a) :
    Reads f (takeOption r) (1 :: bs) (some a) :=
  .bind_byte (takeFlag_reads true) h.last

theorem takeOption_reads (h : ∀ a, Reads (fits a) r (w a) a) (o : Option α) :
    Reads (FitsOption fits o) (takeOption r) (option w o) o := by
  cases o with
  | none => exact takeOption_reads_none
  | some a => exact takeOption_reads_some (h a)

/-! ## Chains -/

theorem takeLinks_reads (h : ∀ a, Reads (fits a) r (w a) a) (a : α) (l : List α) {fuel : Nat} (hl : l.length < fuel) :
    Reads (fits a ∧ ∀ b ∈ l, fits b) (takeLinks r fuel) (chain w a l) (a, l) := by
  induction l generalizing a fuel with
  | nil =>
    cases fuel with
    | zero => cases hl
    | succ fuel => exact .bind ((h a).mono And.left) (.bind_byte (takeFlag_reads false) .pure)
  | cons b l ih =>
    cases fuel with
    | zero => cases hl
    | succ fuel =>
      have others : Reads (fits a ∧ ∀ x ∈ b :: l, fits x) (takeLinks r fuel) (chain w b l) (b, l) :=
        (ih b (Nat.lt_of_succ_lt_succ hl)).mono fun hf =>
          ⟨hf.2 b List.mem_cons_self, fun x hx => hf.2 x (List.mem_cons_of_mem _ hx)⟩
      exact .bind ((h a).mono And.left) (.bind_byte (takeFlag_reads true) others.last)

theorem length_lt_chain (w : α → Bytes) (a : α) (l : List α) : l.length < (chain w a l).length := by
  induction l generalizing a with
  | nil => simp [chain]
  | cons b l ih =>
    have := ih b
    simp only [chain, List.length_append, List.length_cons]
    omega

theorem takeChain_reads (h : ∀ a, Reads (fits a) r (w a) a) (a : α) (l : List α) :
    Reads (fits a ∧ ∀ b ∈ l, fits b) (takeChain r) (chain w a l) (a, l) := by
  intro rest
  have long : l.length < (chain w a l ++ rest).length + 1 := by
    have := length_lt_chain w a l
    rw [List.length_append]
    omega
  exact takeLinks_reads h a l long rest

end Fields

/-! ## Records -/

def FitsHolding (h : Holding) : Prop := FitsText h.owner ∧ FitsList FitsText h.tags ∧ FitsMap (fun _ => True) h.limits

def FitsAccount (a : Account) : Prop := FitsHolding a.own ∧ ∀ p ∈ a.parents, FitsHolding p

def FitsShape : Shape → Prop
  | .named name _ => FitsText name
  | _ => True

theorem zigzag_toInt16_lt (i : Int16) : Varint.zigzag i.toInt < Nat.pow 2 16 :=
  Varint.zigzag_lt (n := Nat.pow 2 15) i.le_toInt i.toInt_lt

theorem zigzag_toInt32_lt (i : Int32) : Varint.zigzag i.toInt < Nat.pow 2 32 :=
  Varint.zigzag_lt (n := Nat.pow 2 31) i.le_toInt i.toInt_lt

theorem zigzag_toInt64_lt (i : Int64) : Varint.zigzag i.toInt < Nat.pow 2 64 :=
  Varint.zigzag_lt (n := Nat.pow 2 63) i.le_toInt i.toInt_lt

theorem takeUser_reads (u : User) : Reads (FitsText u.name) takeUser (user u) u := by
  refine .bind (takeWord_reads (by decide) u.id.toNat_lt) ((takeText_reads _).last_eq ?_)
  rw [UInt64.ofNat_toNat]

theorem takeLimit_reads (n : UInt32) : Reads True (do return UInt32.ofNat (← takeWord 32)) (word n.toNat) n :=
  (takeWord_reads (by decide) n.toNat_lt).last_eq UInt32.ofNat_toNat

theorem takeHolding_reads (h : Holding) : Reads (FitsHolding h) takeHolding (holding h) h := by
  unfold holding
  simp only [List.append_assoc]
  refine .bind (takeWord_reads (by decide) h.id.toNat_lt) ?_
  refine .bind ((takeText_reads _).mono And.left) ?_
  refine .bind (takeSigned_reads (by decide) (zigzag_toInt64_lt _)) ?_
  refine .bind ((takeList_reads_list takeText_reads _).mono fun f => f.2.1) ?_
  refine ((takeMap_reads_map takeLimit_reads _).mono fun f => f.2.2).last_eq ?_
  rw [UInt64.ofNat_toNat, Int64.ofInt_toInt]

theorem takeAccount_reads (a : Account) : Reads (FitsAccount a) takeAccount (chain holding a.own a.parents) a :=
  (takeChain_reads takeHolding_reads a.own a.parents).last

theorem takeShape_reads (s : Shape) : Reads (FitsShape s) takeShape (shape s) s := by
  cases s with
  | empty => exact .bind_nil (takeVariant_reads (by decide)) .pure
  | circle r =>
    exact .bind (takeVariant_reads (by decide))
      ((takeWord_reads (by decide) r.toNat_lt).last_eq (congrArg Shape.circle UInt32.ofNat_toNat))
  | rect w h =>
    rw [shape, List.append_assoc]
    refine .bind (takeVariant_reads (by decide)) ?_
    refine .bind (takeSigned_reads (by decide) (zigzag_toInt32_lt _)) ?_
    refine (takeSigned_reads (by decide) (zigzag_toInt32_lt _)).last_eq ?_
    rw [Int32.ofInt_toInt, Int32.ofInt_toInt]
  | named name sides =>
    rw [shape, List.append_assoc]
    have read : Reads (FitsOption (fun _ => True) sides) (takeOption takeByte) (option (fun n => [n]) sides) sides :=
      takeOption_reads takeByte_reads sides
    refine .bind (takeVariant_reads (by decide)) (.bind (takeText_reads _) (read.mono fun _ => ?_).last)
    cases sides <;> trivial

/-! ## Failures and errors -/

def FitsLink (l : Link) : Prop := FitsText l.typeName ∧ FitsText l.message

def FitsCaptured (f : CapturedFailure) : Prop := FitsLink f.head ∧ ∀ l ∈ f.sources, FitsLink l

def FitsCause (c : RemoteCause) : Prop :=
  FitsText c.typeName ∧ FitsText c.message ∧ FitsOption (FitsList fun _ => True) c.declared

def FitsRemote (f : RemoteFailure) : Prop := FitsText f.typeName ∧ FitsText f.message ∧ FitsList FitsCause f.causes

def FitsInvocation : InvocationError → Prop
  | .configuration m => FitsText m
  | .localAccess m cause => FitsText m ∧ FitsOption FitsCaptured cause
  | .remote f => FitsRemote f
  | .codec m => FitsText m
  | .protocol m => FitsText m

def FitsUserError : UserError → Prop
  | .notFound _ => True
  | .rejected name reason => FitsText name ∧ FitsText reason
  | .importFailed file source => FitsText file ∧ FitsCaptured source
  | .invocation e => FitsInvocation e
  | .secret => True

def FitsBufferError : BufferError → Prop
  | .missing => True
  | .invocation e => FitsInvocation e

def FitsCalcError : CalcError → Prop
  | .divisionByZero => True
  | .invocation e => FitsInvocation e

instance : DecidablePred FitsCause := fun _ => inferInstanceAs (Decidable (_ ∧ _))

instance : DecidablePred FitsRemote := fun _ => inferInstanceAs (Decidable (_ ∧ _))

theorem takeLink_reads (l : Link) : Reads (FitsLink l) takeLink (link l) l :=
  .bind ((takeText_reads _).mono And.left) ((takeText_reads _).mono And.right).last

theorem takeCapturedFailure_reads (c : CapturedFailure) :
    Reads (FitsCaptured c) takeCapturedFailure (capturedFailure c) c :=
  (takeChain_reads takeLink_reads c.head c.sources).last

theorem takeRemoteCause_reads (c : RemoteCause) : Reads (FitsCause c) takeRemoteCause (remoteCause c) c := by
  unfold remoteCause
  rw [List.append_assoc]
  refine .bind ((takeText_reads _).mono And.left) (.bind ((takeText_reads _).mono fun f => f.2.1) ?_)
  exact ((takeOption_reads (takeList_reads_list takeByte_reads) _).mono fun f => f.2.2).last

theorem takeRemoteFailure_reads (r : RemoteFailure) : Reads (FitsRemote r) takeRemoteFailure (remoteFailure r) r := by
  unfold remoteFailure
  rw [List.append_assoc]
  refine .bind ((takeText_reads _).mono And.left) (.bind ((takeText_reads _).mono fun f => f.2.1) ?_)
  exact ((takeList_reads_list takeRemoteCause_reads _).mono fun f => f.2.2).last

theorem takeInvocationError_reads (e : InvocationError) :
    Reads (FitsInvocation e) takeInvocationError (invocationError e) e := by
  cases e with
  | configuration m => exact .bind (takeVariant_reads (by decide)) (takeText_reads _).last
  | localAccess m cause =>
    rw [invocationError, List.append_assoc]
    refine .bind (takeVariant_reads (by decide)) (.bind ((takeText_reads _).mono And.left) ?_)
    exact ((takeOption_reads takeCapturedFailure_reads _).mono And.right).last
  | remote f => exact .bind (takeVariant_reads (by decide)) (takeRemoteFailure_reads _).last
  | codec m => exact .bind (takeVariant_reads (by decide)) (takeText_reads _).last
  | protocol m => exact .bind (takeVariant_reads (by decide)) (takeText_reads _).last

theorem takeUserError_reads (e : UserError) {bs : Bytes} (h : userError e = .ok bs) :
    Reads (FitsUserError e) takeUserError bs e := by
  cases e with
  | notFound id =>
    cases h
    refine .bind (takeVariant_reads (by decide)) ?_
    exact (takeWord_reads (by decide) id.toNat_lt).last_eq (congrArg UserError.notFound UInt64.ofNat_toNat)
  | rejected name reason =>
    cases h
    rw [List.append_assoc]
    refine .bind (takeVariant_reads (by decide)) (.bind ((takeText_reads _).mono And.left) ?_)
    exact ((takeText_reads _).mono And.right).last
  | importFailed file source =>
    cases h
    rw [List.append_assoc]
    refine .bind (takeVariant_reads (by decide)) (.bind ((takeText_reads _).mono And.left) ?_)
    exact ((takeCapturedFailure_reads _).mono And.right).last
  | invocation e =>
    cases h
    exact .bind (takeVariant_reads (by decide)) (takeInvocationError_reads _).last
  | secret => cases h

theorem takeBufferError_reads (e : BufferError) : Reads (FitsBufferError e) takeBufferError (bufferError e) e := by
  cases e with
  | missing => exact .bind_nil (takeVariant_reads (by decide)) .pure
  | invocation e => exact .bind (takeVariant_reads (by decide)) (takeInvocationError_reads _).last

theorem takeCalcError_reads (e : CalcError) : Reads (FitsCalcError e) takeCalcError (calcError e) e := by
  cases e with
  | divisionByZero => exact .bind_nil (takeVariant_reads (by decide)) .pure
  | invocation e => exact .bind (takeVariant_reads (by decide)) (takeInvocationError_reads _).last

/-! ## Values -/

/-- every length in the value fits a word -/
def Fits : (t : Ty) → t.Val → Prop
  | .text, s => FitsText s
  | .list t, l => FitsList (Fits t) l
  | .option t, o => FitsOption (Fits t) o
  | .map t, d => FitsMap (Fits t) d
  | .pair a b, v => Fits a v.1 ∧ Fits b v.2
  | .triple a b c, v => Fits a v.1 ∧ Fits b v.2.1 ∧ Fits c v.2.2
  | .user, u => FitsText u.name
  | .account, a => FitsAccount a
  | .shape, s => FitsShape s
  | .userError, e => FitsUserError e
  | .bufferError, e => FitsBufferError e
  | .calcError, e => FitsCalcError e
  | .capturedFailure, f => FitsCaptured f
  | .invocationError, e => FitsInvocation e
  | .remoteFailure, f => FitsRemote f
  | .pairMap, m => m.entries.size < Nat.pow 2 64
  | _, _ => True

theorem takeOption_reads_of_write {t : Ty} {o : Option t.Val} {bs : Bytes}
    (ih : ∀ {v : t.Val} {bs : Bytes}, write t v = .ok bs → Reads (Fits t v) (take t) bs v)
    (h : write (.option t) o = .ok bs) : Reads (FitsOption (Fits t) o) (takeOption (take t)) bs o := by
  cases o with
  | none =>
    cases h
    exact takeOption_reads_none
  | some a =>
    obtain ⟨cs, hcs, h⟩ := bind_eq_ok h
    cases h
    exact takeOption_reads_some (ih hcs)

/-- **Reading what was written.** The bytes of a value read as the value, whatever follows them; only a value that does
not fit may be refused. -/
theorem reads_of_write {t : Ty} {v : t.Val} {bs : Bytes} (h : write t v = .ok bs) : Reads (Fits t v) (take t) bs v := by
  induction t generalizing bs with
  | u8 =>
    cases h
    exact takeByte_reads v
  | u16 =>
    cases h
    exact (takeWord_reads (by decide) (UInt16.toNat_lt v)).last_eq UInt16.ofNat_toNat
  | u32 =>
    cases h
    exact (takeWord_reads (by decide) (UInt32.toNat_lt v)).last_eq UInt32.ofNat_toNat
  | u64 =>
    cases h
    exact (takeWord_reads (by decide) (UInt64.toNat_lt v)).last_eq UInt64.ofNat_toNat
  | usize =>
    cases h
    exact (takeWord_reads (by decide) (UInt64.toNat_lt v)).last_eq UInt64.ofNat_toNat
  | i8 =>
    cases h
    exact (takeByte_reads _).last
  | i16 =>
    cases h
    exact (takeSigned_reads (by decide) (zigzag_toInt16_lt v)).last_eq (Int16.ofInt_toInt v)
  | i32 =>
    cases h
    exact (takeSigned_reads (by decide) (zigzag_toInt32_lt v)).last_eq (Int32.ofInt_toInt v)
  | i64 =>
    cases h
    exact (takeSigned_reads (by decide) (zigzag_toInt64_lt v)).last_eq (Int64.ofInt_toInt v)
  | bool =>
    cases h
    cases v <;> exact fun _ => .inl rfl
  | char =>
    cases h
    exact takeChar_reads v
  | f32 =>
    cases h
    have read := takeBits_reads (f := Fits .f32 v) (k := 4) (UInt32.toNat_lt v) UInt32.ofNat
    rw [UInt32.ofNat_toNat] at read
    exact read
  | f64 =>
    cases h
    have read := takeBits_reads (f := Fits .f64 v) (k := 8) (UInt64.toNat_lt v) UInt64.ofNat
    rw [UInt64.ofNat_toNat] at read
    exact read
  | unit =>
    cases h
    exact .pure
  | text =>
    cases h
    exact takeText_reads v
  | list t ih =>
    obtain ⟨cs, hcs, h⟩ := bind_eq_ok h
    cases h
    exact takeList_reads (fun _ _ => ih) v hcs
  | option t ih => exact takeOption_reads_of_write ih h
  | map t ih =>
    obtain ⟨cs, hcs, h⟩ := bind_eq_ok h
    cases h
    exact takeMap_reads (fun _ _ => ih) v hcs
  | pair a b iha ihb =>
    obtain ⟨x, y⟩ := v
    obtain ⟨bs, hbs, h⟩ := bind_eq_ok h
    obtain ⟨cs, hcs, h⟩ := bind_eq_ok h
    cases h
    exact .bind ((iha hbs).mono And.left) ((ihb hcs).mono And.right).last
  | triple a b c iha ihb ihc =>
    obtain ⟨x, y, z⟩ := v
    obtain ⟨bs, hbs, h⟩ := bind_eq_ok h
    obtain ⟨cs, hcs, h⟩ := bind_eq_ok h
    obtain ⟨ds, hds, h⟩ := bind_eq_ok h
    cases h
    rw [List.append_assoc]
    refine .bind ((iha hbs).mono And.left) (.bind ((ihb hcs).mono fun f => f.2.1) ?_)
    exact ((ihc hds).mono fun f => f.2.2).last
  | user =>
    cases h
    exact takeUser_reads v
  | account =>
    cases h
    exact takeAccount_reads v
  | shape =>
    cases h
    exact takeShape_reads v
  | lazySeq => cases h
  | pairMap =>
    cases h
    have entry (e : (UInt8 × UInt8) × UInt8) : Reads True (do
        let a ← takeByte
        let b ← takeByte
        let v ← takeByte
        return ((a, b), v)) [e.1.1, e.1.2, e.2] e :=
      .bind_byte (takeByte_reads _) (.bind_byte (takeByte_reads _) (takeByte_reads _).last)
    refine ((takeList_reads_list entry _).mono fun f => ⟨f, fun _ _ => trivial⟩).last_eq ?_
    rw [Dict.ofList_entries]
  | userError => exact takeUserError_reads v h
  | bufferError =>
    cases h
    exact takeBufferError_reads v
  | calcError =>
    cases h
    exact takeCalcError_reads v
  | capturedFailure =>
    cases h
    exact takeCapturedFailure_reads v
  | invocationError =>
    cases h
    exact takeInvocationError_reads v
  | remoteFailure =>
    cases h
    exact takeRemoteFailure_reads v

/-- **Round trip.** The bytes of a value that fits give the value. -/
theorem read_write {t : Ty} {v : t.Val} {bs : Bytes} (h : write t v = .ok bs) (hf : Fits t v) : read t bs = .ok v := by
  unfold read
  rcases reads_of_write h [] with h | ⟨h, -⟩
  · rw [List.append_nil] at h
    rw [h]
    rfl
  · exact absurd hf h

/-- **No confusion.** The bytes of a value never give another one, not even when it does not fit. -/
theorem eq_of_read_write {t : Ty} {v v' : t.Val} {bs : Bytes} (h : write t v = .ok bs) (h' : read t bs = .ok v') :
    v' = v := by
  unfold read at h'
  rcases reads_of_write h [] with h | ⟨-, e, h⟩
  · rw [List.append_nil] at h
    rw [h] at h'
    cases h'
    rfl
  · rw [List.append_nil] at h
    rw [h] at h'
    cases h'

end Postcard

/-! ## The codec -/

section Codec

variable {limit : Option Nat} {t : Ty} {v v' : t.Val} {bs : Bytes}

theorem Codec.postcard_encode_eq_ok_iff : (postcard limit).encode t v = .ok bs ↔ Postcard.write t v = .ok bs := by
  unfold postcard
  dsimp only
  split <;> simp_all

theorem Codec.postcard_decode_eq_ok_iff :
    (postcard limit).decode t bs = .ok v ↔ (∀ n ∈ limit, bs.length ≤ n) ∧ Postcard.read t bs = .ok v := by
  unfold postcard
  dsimp only
  cases limit with
  | none =>
    rw [Option.filter_none]
    cases Postcard.read t bs <;> simp
  | some n =>
    by_cases h : n < bs.length
    · rw [Option.filter_some, if_pos (decide_eq_true h)]
      refine ⟨fun h' => ?_, fun h' => absurd h (Nat.not_lt.2 (h'.1 n rfl))⟩
      cases h'
    · rw [Option.filter_some, if_neg (by rwa [decide_eq_true_eq])]
      cases Postcard.read t bs <;> simp [Nat.not_lt.1 h]

/-- bytes that Postcard wrote never give another value -/
theorem Codec.eq_of_postcard {limit' : Option Nat} (h : (postcard limit).encode t v = .ok bs)
    (h' : (postcard limit').decode t bs = .ok v') : v' = v :=
  Postcard.eq_of_read_write (postcard_encode_eq_ok_iff.1 h) (postcard_decode_eq_ok_iff.1 h').2

end Codec

end Loopback
