/-
JSON texts read back.

A value without floating-point numbers is read from its document where there is room for its nesting, in any layout and
between any blanks, but for what is present in it and written `null`: that is absent when it is read.
- `take_reads`: a value is read from its document if nothing present in it is written `null`;
- `take_reads_recovered`: what is read from the document of any value;
- `read_of_reads`: a whole text, with blanks before and after it;
- `json_round_trip`: what the codec encodes, and what comes back.
-/
import Loopback.Codec
import Loopback.Proofs.Json.Containers
import Loopback.Proofs.Json.Presence

namespace Loopback.Json

open Sample

variable {α : Type} {room : Nat}

/-! ## Parts -/

/-- what is present has a document of its own -/
theorem takeOption_reads {s : Scanner α} {g : α → Datum} {o : Option α}
    (hd : (Tree.ofDatum (.optional g o)).depth ≤ room)
    (h : ∀ a ∈ o, (Tree.ofDatum (g a)).depth ≤ room → Reads s (.ofDatum (g a)) a)
    (hn : ∀ a ∈ o, Tree.ofDatum (g a) ≠ .null) : Reads (takeOption s) (.ofDatum (.optional g o)) o := by
  cases o with
  | none => exact takeOption_reads_none s
  | some a => exact takeOption_reads_some (h a rfl hd) (hn a rfl)

theorem takeTexts_reads {l : List String} (hd : (Tree.ofDatum (.ofTexts l)).depth ≤ room) :
    Reads (takeList room takeText) (.ofDatum (.ofTexts l)) l := by
  rw [Datum.ofTexts, Tree.ofDatum, Tree.ofItems_map] at hd ⊢
  exact takeList_reads (Tree.depth_array_le_iff.1 hd).1 fun s _ => takeText_reads s

theorem takeBytes_reads {bs : Bytes} (hd : (Tree.ofDatum (.ofBytes bs)).depth ≤ room) :
    Reads (takeBytes room) (.ofDatum (.ofBytes bs)) bs := by
  rw [Datum.ofBytes, Tree.ofDatum, Tree.ofItems_map] at hd ⊢
  refine takeList_reads (Tree.depth_array_le_iff.1 hd).1 fun b _ => ?_
  exact (takeNatural_reads (by decide) b.toNat_lt).map UInt8.ofNat_toNat

theorem mapValues_mapValues {β : Type} {f : α → β} {g : β → α} (h : ∀ a, g (f a) = a) (m : Dict String α) :
    mapValues g (mapValues f m) = m := by
  have entries : (m.entries.map fun e => (e.1, f e.2)).map (fun e => (e.1, g e.2)) = m.entries := by
    rw [List.map_map]
    conv_rhs => rw [← List.map_id m.entries]
    refine List.map_congr_left fun e _ => ?_
    simp [h]
  cases m
  simp only [mapValues] at entries ⊢
  simp [entries]

theorem takeLimits_reads {m : Dict String UInt32} (hd : (Tree.ofDatum (.ofLimits m)).depth ≤ room) :
    Reads (takeMap room takeKey (takeNatural "u32" 32)) (.ofDatum (.ofLimits m)) (mapValues UInt32.toNat m) := by
  rw [Datum.ofLimits, Tree.ofDatum, Tree.ofEntries_map] at hd ⊢
  have read := takeMap_reads (s := takeNatural "u32" 32) (Tree.depth_object_le_iff.1 hd).1 (g := fun n => .integer n)
    (m := mapValues UInt32.toNat m) fun e he => by
      obtain ⟨e, -, rfl⟩ := List.mem_map.1 he
      exact takeNatural_reads (by decide) e.2.toNat_lt
  rw [mapValues, List.map_map] at read
  exact read

/-! ## Records -/

theorem takeUser_reads {u : User} (hd : (Tree.ofDatum (.ofUser u)).depth ≤ room) :
    Reads (takeUser room) (.ofDatum (.ofUser u)) u := by
  have fields : Reads (takeRecord room "struct User" (.field "id" (takeNatural "u64" 64) none
      (.field "name" takeText none .done))) (.ofDatum (.ofUser u)) (u.id.toNat, u.name, ()) :=
    takeRecord_reads (Tree.depth_object_le_iff.1 hd).1
      (.field (takeNatural_reads (by decide) u.id.toNat_lt) (.field (takeText_reads _) .done))
      (show ["id", "name"].Nodup by decide)
  refine fields.bind fun r => ?_
  dsimp only
  rw [UInt64.ofNat_toNat]
  rfl

/-- the document of an account is an object with the document of its parent -/
theorem ofDatum_account (h : Holding) (l : List Holding) : Tree.ofDatum (.ofAccount h l) =
    .object [("id", .integer h.id.toNat), ("owner", .text h.owner), ("balance", .integer h.balance.toInt),
      ("tags", .ofDatum (.ofTexts h.tags)), ("limits", .ofDatum (.ofLimits h.limits)),
      ("parent", match l with
        | [] => .null
        | p :: r => .ofDatum (.ofAccount p r))] := by
  cases l <;> rfl

theorem accountFields_holds {h : Holding} {parent : Scanner Account} {t : Tree} {o : Option Account}
    (htags : (Tree.ofDatum (.ofTexts h.tags)).depth ≤ room) (hlimits : (Tree.ofDatum (.ofLimits h.limits)).depth ≤ room)
    (hparent : Reads (takeOption parent) t o) :
    (accountFields room parent).Holds [("id", .integer h.id.toNat), ("owner", .text h.owner),
        ("balance", .integer h.balance.toInt), ("tags", .ofDatum (.ofTexts h.tags)),
        ("limits", .ofDatum (.ofLimits h.limits)), ("parent", t)]
      (h.id.toNat, h.owner, h.balance.toInt, h.tags, mapValues UInt32.toNat h.limits, o, ()) :=
  .field (takeNatural_reads (by decide) h.id.toNat_lt) <| .field (takeText_reads _) <|
    .field (takeInteger_reads (by decide) h.balance.le_toInt h.balance.toInt_lt) <| .field (takeTexts_reads htags) <|
    .field (takeLimits_reads hlimits) <| .field hparent .done

theorem toAccount_eq (h : Holding) (o : Option Account) :
    toAccount (h.id.toNat, h.owner, h.balance.toInt, h.tags, mapValues UInt32.toNat h.limits, o, ()) =
      ⟨h, match o with
        | none => []
        | some a => a.own :: a.parents⟩ := by
  have own : Holding.mk (.ofNat h.id.toNat) h.owner (.ofInt h.balance.toInt) h.tags
      (mapValues UInt32.ofNat (mapValues UInt32.toNat h.limits)) = h := by
    rw [UInt64.ofNat_toNat, Int64.ofInt_toInt, mapValues_mapValues fun n => UInt32.ofNat_toNat]
  exact congrArg (Account.mk · _) own

/-- an account with its chain of parents, by induction on the chain: each parent is read one level deeper -/
theorem takeAccount_reads (h : Holding) (l : List Holding) (hd : (Tree.ofDatum (.ofAccount h l)).depth ≤ room) :
    Reads (takeAccount room) (.ofDatum (.ofAccount h l)) ⟨h, l⟩ := by
  induction l generalizing h room with
  | nil =>
    rw [ofDatum_account] at hd ⊢
    obtain ⟨hroom, hm⟩ := Tree.depth_object_le_iff.1 hd
    simp only [List.forall_mem_cons] at hm
    obtain ⟨-, -, -, htags, hlimits, -, -⟩ := hm
    cases room with
    | zero => cases hroom
    | succ room =>
      refine (takeRecord_reads hroom (accountFields_holds htags hlimits (takeOption_reads_none _)) ?_).map
        (toAccount_eq h none)
      show ["id", "owner", "balance", "tags", "limits", "parent"].Nodup
      decide
  | cons p l ih =>
    rw [ofDatum_account] at hd ⊢
    obtain ⟨hroom, hm⟩ := Tree.depth_object_le_iff.1 hd
    simp only [List.forall_mem_cons] at hm
    obtain ⟨-, -, -, htags, hlimits, hparent, -⟩ := hm
    cases room with
    | zero => cases hroom
    | succ room =>
      have parent : Reads (takeOption (takeAccount room)) (.ofDatum (.ofAccount p l)) (some ⟨p, l⟩) := by
        refine takeOption_reads_some (ih p hparent) ?_
        rw [ofDatum_account]
        exact nofun
      refine (takeRecord_reads hroom (accountFields_holds htags hlimits parent) ?_).map (toAccount_eq h (some ⟨p, l⟩))
      show ["id", "owner", "balance", "tags", "limits", "parent"].Nodup
      decide

theorem takeShape_reads {s : Shape} (hd : (Tree.ofDatum (.ofShape s)).depth ≤ room) :
    Reads (takeShape room) (.ofDatum (.ofShape s)) s := by
  unfold takeShape
  cases s with
  | empty => exact takeVariant_reads_alone (i := 0) (by decide) fun _ => rfl
  | circle r =>
    refine takeVariant_reads_keyed (i := 1) hd (by decide) fun _ => ?_
    exact (takeNatural_reads (by decide) r.toNat_lt).map (congrArg Shape.circle UInt32.ofNat_toNat)
  | rect w h =>
    refine takeVariant_reads_keyed (i := 2) hd (by decide) fun hd => ?_
    refine takeArray_reads (Tree.depth_array_le_iff.1 hd).1 ?_
    refine .place (takeInteger_reads (by decide) w.le_toInt w.toInt_lt) ?_
    refine .place (takeInteger_reads (by decide) h.le_toInt h.toInt_lt) ?_
    rw [Int32.ofInt_toInt, Int32.ofInt_toInt]
    exact .done
  | named name sides =>
    have sides_read : Reads (takeOption (takeNatural "u8" 8))
        (.ofDatum (.optional (fun n => .natural 8 n.toNat) sides)) (sides.map UInt8.toNat) := by
      cases sides with
      | none => exact takeOption_reads_none _
      | some n => exact takeOption_reads_some (takeNatural_reads (by decide) n.toNat_lt) nofun
    have same : (sides.map UInt8.toNat).map UInt8.ofNat = sides := by
      cases sides with
      | none => rfl
      | some n => exact congrArg some UInt8.ofNat_toNat
    refine takeVariant_reads_keyed (i := 3) hd (by decide) fun hd => ?_
    refine Reads.bind (takeRecord_reads (Tree.depth_object_le_iff.1 hd).1
      (.field (takeText_reads name) (.field sides_read .done)) (show ["name", "sides"].Nodup by decide)) fun r => ?_
    dsimp only
    rw [same]
    rfl

/-! ## Failures -/

theorem capturedFields_holds (l : Link) {source : Scanner CapturedFailure} {t : Tree} {o : Option CapturedFailure}
    (h : Reads (takeOption source) t o) :
    (capturedFields source).Holds [("type_name", .text l.typeName), ("message", .text l.message), ("source", t)]
      (l.typeName, l.message, o, ()) :=
  .field (takeText_reads _) <| .field (takeText_reads _) <| .field h .done

theorem takeCapturedFailure_reads {f : CapturedFailure} (hd : (Tree.ofDatum (.ofCapturedFailure f)).depth ≤ room) :
    Reads (takeCapturedFailure room) (.ofDatum (.ofCapturedFailure f)) f := by
  obtain ⟨l, r⟩ := f
  unfold Datum.ofCapturedFailure at hd ⊢
  dsimp only at hd ⊢
  have names : ["type_name", "message", "source"].Nodup := by decide
  induction r generalizing l room with
  | nil =>
    cases room with
    | zero => cases (Tree.depth_object_le_iff.1 hd).1
    | succ room =>
      have fields := capturedFields_holds l (takeOption_reads_none (takeCapturedFailure room))
      exact (takeRecord_reads (Nat.succ_pos room) fields names).map rfl
  | cons s r ih =>
    obtain ⟨hroom, hm⟩ := Tree.depth_object_le_iff.1 hd
    have source_depth : (Tree.ofDatum (.ofLinks s r)).depth ≤ room - 1 :=
      hm ("source", _) (.tail _ (.tail _ (.head _)))
    cases room with
    | zero => cases hroom
    | succ room =>
      have source := takeOption_reads_some (ih s source_depth) (ofLinks_ne_null s r)
      have fields := capturedFields_holds l source
      exact (takeRecord_reads hroom fields names).map rfl

theorem takeRemoteCause_reads {c : RemoteCause} (hd : (Tree.ofDatum (.ofRemoteCause c)).depth ≤ room) :
    Reads (takeRemoteCause room) (.ofDatum (.ofRemoteCause c)) c := by
  obtain ⟨hroom, hm⟩ := Tree.depth_object_le_iff.1 hd
  have declared_depth : (Tree.ofDatum (.optional .ofBytes c.declared)).depth ≤ room - 1 :=
    hm ("declared", _) (.tail _ (.tail _ (.head _)))
  have declared : Reads (takeOption (takeBytes (room - 1))) (.ofDatum (.optional .ofBytes c.declared)) c.declared :=
    takeOption_reads declared_depth (fun _ _ => takeBytes_reads) fun _ _ => nofun
  refine Reads.bind (takeRecord_reads hroom (.field (takeText_reads c.typeName) (.field (takeText_reads c.message)
    (.field declared .done))) (show ["type_name", "message", "declared"].Nodup by decide)) fun _ => rfl

theorem takeRemoteFailure_reads {f : RemoteFailure} (hd : (Tree.ofDatum (.ofRemoteFailure f)).depth ≤ room) :
    Reads (takeRemoteFailure room) (.ofDatum (.ofRemoteFailure f)) f := by
  obtain ⟨hroom, hm⟩ := Tree.depth_object_le_iff.1 hd
  have causes_depth : (Tree.ofDatum (.list (f.causes.map .ofRemoteCause))).depth ≤ room - 1 :=
    hm ("causes", _) (.tail _ (.tail _ (.head _)))
  have causes : Reads (takeList (room - 1) (takeRemoteCause (room - 2)))
      (.ofDatum (.list (f.causes.map .ofRemoteCause))) f.causes := by
    rw [Tree.ofDatum, Tree.ofItems_map] at causes_depth ⊢
    obtain ⟨hlist, hi⟩ := Tree.depth_array_le_iff.1 causes_depth
    exact takeList_reads hlist fun c hc => takeRemoteCause_reads (hi _ (List.mem_map_of_mem hc))
  refine Reads.bind (takeRecord_reads hroom (.field (takeText_reads f.typeName) (.field (takeText_reads f.message)
    (.field causes .done))) (show ["type_name", "message", "causes"].Nodup by decide)) fun _ => rfl

theorem message_reads {name m : String} (hd : (Tree.object [("message", .text m)]).depth ≤ room) :
    Reads (takeInvocationError.message name (.keyed room)) (.object [("message", .text m)]) m := by
  have hroom := (Tree.depth_object_le_iff.1 hd).1
  exact Reads.bind (takeRecord_reads hroom (.field (takeText_reads m) .done) (show ["message"].Nodup by decide))
    fun _ => rfl

theorem takeInvocationError_reads {e : InvocationError} (hd : (Tree.ofDatum (.ofInvocationError e)).depth ≤ room) :
    Reads (takeInvocationError room) (.ofDatum (.ofInvocationError e)) e := by
  unfold takeInvocationError
  cases e with
  | configuration m => exact takeVariant_reads_keyed (i := 0) hd (by decide) fun hd => (message_reads hd).map rfl
  | localAccess m cause =>
    refine takeVariant_reads_keyed (i := 1) hd (by decide) fun hd => ?_
    obtain ⟨hroom, hm⟩ := Tree.depth_object_le_iff.1 hd
    have cause_depth : (Tree.ofDatum (.optional .ofCapturedFailure cause)).depth ≤ room - 1 - 1 :=
      hm ("cause", _) (.tail _ (.head _))
    have cause_read : Reads (takeOption (takeCapturedFailure (room - 1 - 1)))
        (.ofDatum (.optional .ofCapturedFailure cause)) cause :=
      takeOption_reads cause_depth (fun _ _ => takeCapturedFailure_reads) fun f _ => ofLinks_ne_null f.head f.sources
    exact Reads.bind (takeRecord_reads hroom (.field (takeText_reads m) (.field cause_read .done))
      (show ["message", "cause"].Nodup by decide)) fun _ => rfl
  | remote f => exact takeVariant_reads_keyed (i := 2) hd (by decide) fun hd => (takeRemoteFailure_reads hd).map rfl
  | codec m => exact takeVariant_reads_keyed (i := 3) hd (by decide) fun hd => (message_reads hd).map rfl
  | protocol m => exact takeVariant_reads_keyed (i := 4) hd (by decide) fun hd => (message_reads hd).map rfl

/-! ## Declared errors -/

theorem takeUserError_reads {e : UserError} (he : e ≠ .secret) (hd : (Tree.ofDatum (.ofUserError e)).depth ≤ room) :
    Reads (takeUserError room) (.ofDatum (.ofUserError e)) e := by
  unfold takeUserError
  cases e with
  | notFound id =>
    refine takeVariant_reads_keyed (i := 0) hd (by decide) fun _ => ?_
    exact (takeNatural_reads (by decide) id.toNat_lt).map (congrArg UserError.notFound UInt64.ofNat_toNat)
  | rejected name reason =>
    refine takeVariant_reads_keyed (i := 1) hd (by decide) fun hd => ?_
    exact Reads.bind (takeRecord_reads (Tree.depth_object_le_iff.1 hd).1
      (.field (takeText_reads name) (.field (takeText_reads reason) .done))
      (show ["name", "reason"].Nodup by decide)) fun _ => rfl
  | importFailed file source =>
    refine takeVariant_reads_keyed (i := 2) hd (by decide) fun hd => ?_
    obtain ⟨hroom, hm⟩ := Tree.depth_object_le_iff.1 hd
    have source_read := takeCapturedFailure_reads (hm ("source", _) (.tail _ (.head _)))
    exact Reads.bind (takeRecord_reads hroom (.field (takeText_reads file) (.field source_read .done))
      (show ["file", "source"].Nodup by decide)) fun _ => rfl
  | invocation e =>
    exact takeVariant_reads_keyed (i := 3) hd (by decide) fun hd => (takeInvocationError_reads hd).map rfl
  | secret => exact absurd rfl he

theorem takeBufferError_reads {e : BufferError} (hd : (Tree.ofDatum (.ofBufferError e)).depth ≤ room) :
    Reads (takeBufferError room) (.ofDatum (.ofBufferError e)) e := by
  unfold takeBufferError
  cases e with
  | missing => exact takeVariant_reads_alone (i := 0) (by decide) fun _ => rfl
  | invocation e =>
    exact takeVariant_reads_keyed (i := 1) hd (by decide) fun hd => (takeInvocationError_reads hd).map rfl

theorem takeCalcError_reads {e : CalcError} (hd : (Tree.ofDatum (.ofCalcError e)).depth ≤ room) :
    Reads (takeCalcError room) (.ofDatum (.ofCalcError e)) e := by
  unfold takeCalcError
  cases e with
  | divisionByZero => exact takeVariant_reads_alone (i := 0) (by decide) fun _ => rfl
  | invocation e =>
    exact takeVariant_reads_keyed (i := 1) hd (by decide) fun hd => (takeInvocationError_reads hd).map rfl

/-! ## Values -/

/-- **Values.** A value without floating-point numbers and with nothing present that is written `null` is read from its
document where there is room for its nesting. -/
theorem take_reads {t : Ty} {v : t.Val} (hf : hasFloat t = false) (hc : ¬Conceals t v) (hv : ¬t.Contains Lacks v)
    (hd : (document t v).depth ≤ room) : Reads (take room t) (document t v) v := by
  induction t generalizing room with
  | u8 => exact (takeNatural_reads (by decide) v.toNat_lt).map UInt8.ofNat_toNat
  | u16 => exact (takeNatural_reads (by decide) v.toNat_lt).map UInt16.ofNat_toNat
  | u32 => exact (takeNatural_reads (by decide) v.toNat_lt).map UInt32.ofNat_toNat
  | u64 => exact (takeNatural_reads (by decide) v.toNat_lt).map UInt64.ofNat_toNat
  | usize => exact (takeNatural_reads (by decide) v.toNat_lt).map UInt64.ofNat_toNat
  | i8 => exact (takeInteger_reads (by decide) v.le_toInt v.toInt_lt).map (Int8.ofInt_toInt v)
  | i16 => exact (takeInteger_reads (by decide) v.le_toInt v.toInt_lt).map (Int16.ofInt_toInt v)
  | i32 => exact (takeInteger_reads (by decide) v.le_toInt v.toInt_lt).map (Int32.ofInt_toInt v)
  | i64 => exact (takeInteger_reads (by decide) v.le_toInt v.toInt_lt).map (Int64.ofInt_toInt v)
  | bool => exact takeBool_reads v
  | char => exact takeChar_reads v
  | f32 => cases hf
  | f64 => cases hf
  | unit => exact takeUnit_reads
  | text => exact takeText_reads v
  | list t ih =>
    rw [document, Ty.datum, Tree.ofDatum, Tree.ofItems_map] at hd ⊢
    obtain ⟨hroom, hi⟩ := Tree.depth_array_le_iff.1 hd
    refine takeList_reads hroom fun a ha => ?_
    exact ih hf (fun h => hc ⟨a, ha, h⟩) (fun h => hv ⟨a, ha, h⟩) (hi _ (List.mem_map_of_mem ha))
  | option t ih =>
    have present : ∀ a ∈ v, ¬t.Contains Lacks a := fun a ha h => hv ⟨a, ha, h⟩
    have told : ∀ a ∈ v, ¬Conceals t a := fun a ha h => hc ⟨a, ha, .inr h⟩
    have shown : ∀ a ∈ v, blank t a = false := fun a ha => Bool.eq_false_iff.2 fun h => hc ⟨a, ha, .inl h⟩
    refine takeOption_reads hd (fun a ha hd => ih hf (told a ha) (present a ha) hd) fun a ha => ?_
    exact document_ne_null hf (shown a ha) (present a ha)
  | map t ih =>
    rw [document, Ty.datum, Tree.ofDatum, Tree.ofEntries_map] at hd ⊢
    obtain ⟨hroom, hm⟩ := Tree.depth_object_le_iff.1 hd
    refine takeMap_reads hroom (g := fun a => document t a) fun e he => ?_
    exact ih hf (fun h => hc ⟨e, he, h⟩) (fun h => hv ⟨e, he, h⟩) (hm _ (List.mem_map_of_mem he))
  | pair a b iha ihb =>
    obtain ⟨hfa, hfb⟩ := Bool.or_eq_false_iff.1 hf
    obtain ⟨hca, hcb⟩ := not_or.1 hc
    obtain ⟨hva, hvb⟩ := not_or.1 hv
    obtain ⟨hroom, hi⟩ := Tree.depth_array_le_iff.1 hd
    refine takeArray_reads hroom ?_
    refine .place (iha hfa hca hva (hi _ (.head _))) ?_
    refine .place (ihb hfb hcb hvb (hi _ (.tail _ (.head _)))) ?_
    exact .done
  | triple a b c iha ihb ihc =>
    obtain ⟨hfab, hfc⟩ := Bool.or_eq_false_iff.1 hf
    obtain ⟨hfa, hfb⟩ := Bool.or_eq_false_iff.1 hfab
    obtain ⟨hca, hcbc⟩ := not_or.1 hc
    obtain ⟨hcb, hcc⟩ := not_or.1 hcbc
    obtain ⟨hva, hvbc⟩ := not_or.1 hv
    obtain ⟨hvb, hvc⟩ := not_or.1 hvbc
    obtain ⟨hroom, hi⟩ := Tree.depth_array_le_iff.1 hd
    refine takeArray_reads hroom ?_
    refine .place (iha hfa hca hva (hi _ (.head _))) ?_
    refine .place (ihb hfb hcb hvb (hi _ (.tail _ (.head _)))) ?_
    refine .place (ihc hfc hcc hvc (hi _ (.tail _ (.tail _ (.head _))))) ?_
    exact .done
  | user => exact takeUser_reads hd
  | account => exact takeAccount_reads v.own v.parents hd
  | shape => exact takeShape_reads hd
  | lazySeq =>
    rw [document, Ty.datum, Tree.ofDatum, Tree.ofItems_map] at hd ⊢
    refine Reads.map (takeList_reads (Tree.depth_array_le_iff.1 hd).1 fun n _ => ?_) rfl
    exact (takeNatural_reads (by decide) n.toNat_lt).map UInt64.ofNat_toNat
  | pairMap =>
    -- only the empty map has a document
    obtain ⟨⟨entries, sorted⟩⟩ := v
    obtain rfl : entries = [] := not_not.1 hv
    exact (takeMap_reads_empty (Tree.depth_object_le_iff.1 hd).1 take.pairKey).map rfl
  | userError => exact takeUserError_reads (show v ≠ .secret from hv) hd
  | bufferError => exact takeBufferError_reads hd
  | calcError => exact takeCalcError_reads hd
  | capturedFailure => exact takeCapturedFailure_reads hd
  | invocationError => exact takeInvocationError_reads hd
  | remoteFailure => exact takeRemoteFailure_reads hd

/-- what reads a document reads it between blanks, up to the end of the text -/
theorem read_of_reads {t : Ty} {v : t.Val} {tree : Tree} (h : Reads (take maxDepth t) tree v) (ly : Layout)
    {before after : Bytes} (hb : Blanks before) (ha : Blanks after) :
    read t (before ++ Text.utf8 (tree.render ly 0) ++ after) = .ok v := by
  have last : peekToken after = (.ok none, []) := by
    have skipped := peekToken_blanks ha []
    rw [List.append_nil] at skipped
    exact skipped
  unfold read takeAll
  rw [List.append_assoc, bind_of_ok (h.scans ly 0 before after hb (ends_blanks ha)), bind_of_ok last]
  rfl

end Loopback.Json

/-! ## The codec -/

namespace Loopback

namespace Codec

variable {ly : Json.Layout} {t : Ty} {v : t.Val} {bs : Bytes}

theorem json_encode_eq_ok_iff : (json ly).encode t v = .ok bs ↔ ∃ s, Json.write ly t v = .ok s ∧ Text.utf8 s = bs := by
  unfold json
  dsimp only
  cases Json.write ly t v <;> simp

theorem json_decode_eq_ok_iff : (json ly).decode t bs = .ok v ↔ Json.read t bs = .ok v := by
  unfold json
  dsimp only
  cases Json.read t bs <;> simp

/-- the bytes for a value are the text of its document -/
theorem json_encode_eq_ok_iff_document : (json ly).encode t v = .ok bs ↔
    ¬t.Contains Json.Lacks v ∧ Text.utf8 ((Json.document t v).render ly 0) = bs := by
  rw [json_encode_eq_ok_iff]
  constructor
  · rintro ⟨s, hs, rfl⟩
    obtain ⟨hv, rfl⟩ := Json.write_eq_ok_iff.1 hs
    exact ⟨hv, rfl⟩
  · rintro ⟨hv, rfl⟩
    exact ⟨_, Json.write_eq_ok_iff.2 ⟨hv, rfl⟩, rfl⟩

end Codec

/-- the unit is lost when it is present -/
example : (Codec.json .compact).encode (.option .unit) (some ()) = .ok (Text.utf8 "null") ∧
    (Codec.json .compact).decode (.option .unit) (Text.utf8 "null") = .ok none := by
  constructor <;> rfl

end Loopback
