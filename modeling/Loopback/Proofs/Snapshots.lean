/-
Two snapshots of one error.

An error is seen by those who do not know its type as an `Erased`: a text, and a source that is such an error itself. A
captured failure is made by recursion, the snapshot of the source below the text; the causes of an envelope are collected by
a loop, source by source. Both are told here in these terms.
- `Report.ofErased_eq_snapshot`, `Report.causes_eq_collect`: capturing is the recursion, and wrapping is the loop;
- `Erased.chain_snapshot`, `Erased.collect_eq`: what the recursion and the loop come to, for a chain of any length;
- `Erased.erased_snapshot`: a captured failure is seen as the error that was captured;
- `snapshots_agree`: for every error and codec, both snapshots tell the same links in the same order, only the first cause may
  carry an encoding, and capturing a capture changes no text.
-/
import Loopback.Proofs.Arguments

namespace Loopback

variable {ι σ : Type}

/-! ## Errors without their types -/

/-- an error whose type is not known, with a chain of sources that ends -/
inductive Erased where
  | root (message : String)
  | caused (message : String) (source : Erased)

namespace Erased

/-- the text of an error -/
def message : Erased → String
  | root m => m
  | caused m _ => m

/-- the sources of an error, the nearest first -/
def sources : Erased → List Erased
  | root _ => []
  | caused _ source => source :: source.sources

/-- the error of a text, and of the texts of its sources -/
def ofTexts (message : String) : List String → Erased
  | [] => root message
  | m :: sources => caused message (ofTexts m sources)

/-- the snapshot of an error, that of its source below it -/
def snapshot : Erased → CapturedFailure
  | root m => ⟨⟨erasedTypeName, m⟩, []⟩
  | caused m source => ⟨⟨erasedTypeName, m⟩, source.snapshot.chain⟩

/-- the link that tells of an error -/
def link (e : Erased) : Link := ⟨erasedTypeName, e.message⟩

/-- the cause that tells of an error; it carries no encoding -/
def cause (e : Erased) : RemoteCause := ⟨erasedTypeName, e.message, none⟩

/-- collect the causes of the sources of an error, one after another, behind those that are there -/
def collect (there : List RemoteCause) : Erased → List RemoteCause
  | root _ => there
  | caused _ source => source.collect (there ++ [source.cause])

end Erased

/-- an error as it is seen when its type is not known -/
def Report.erased (r : Report) : Erased := .ofTexts r.message r.sources

-- an error that holds another one shows its text again; one that stands for another one shows all that this shows
example (f : RemoteFailure) : (InvocationError.remote f).report.erased = .caused f.display (.root f.display) := rfl

example (e : InvocationError) : (Sample.UserError.invocation e).report.erased = e.report.erased := rfl

/-! ## Recursion and loop -/

namespace Erased

theorem message_ofTexts (m : String) (texts : List String) : (ofTexts m texts).message = m := by
  cases texts <;> rfl

theorem messages_ofTexts (m : String) (texts : List String) : (ofTexts m texts).sources.map message = texts := by
  induction texts generalizing m with
  | nil => rfl
  | cons m' texts ih => rw [ofTexts, sources, List.map_cons, message_ofTexts, ih]

/-- **The recursion** tells of the error, then of each of its sources. -/
theorem chain_snapshot (e : Erased) : e.snapshot.chain = e.link :: e.sources.map link := by
  induction e with
  | root m => rfl
  | caused m source ih =>
    calc
      (caused m source).snapshot.chain = (caused m source).link :: source.snapshot.chain := rfl
      _ = (caused m source).link :: source.link :: source.sources.map link := by rw [ih]

/-- **The loop** appends the causes of the sources. -/
theorem collect_eq (e : Erased) (there : List RemoteCause) : e.collect there = there ++ e.sources.map cause := by
  induction e generalizing there with
  | root m => simp [collect, sources]
  | caused m source ih =>
    calc
      (caused m source).collect there = source.collect (there ++ [source.cause]) := rfl
      _ = there ++ [source.cause] ++ source.sources.map cause := ih _
      _ = there ++ (caused m source).sources.map cause := by simp [sources]

/-- a captured failure is seen as the error that was captured -/
theorem erased_snapshot (e : Erased) : e.snapshot.report.erased = e := by
  induction e with
  | root m => rfl
  | caused m source ih =>
    show caused m source.snapshot.report.erased = caused m source
    rw [ih]

end Erased

/-! ## The two snapshots -/

/-- what a cause tells, its encoding aside -/
def RemoteCause.link (c : RemoteCause) : Link := ⟨c.typeName, c.message⟩

namespace Report

variable (r : Report)

/-- capturing an error whose type is not known is the recursion -/
theorem ofErased_eq_snapshot : CapturedFailure.ofErased r = r.erased.snapshot := by
  have recursion (m : String) (texts : List String) :
      (Erased.ofTexts m texts).snapshot = ⟨⟨erasedTypeName, m⟩, texts.map (Link.mk erasedTypeName)⟩ := by
    induction texts generalizing m with
    | nil => rfl
    | cons m' texts ih =>
      calc
        (Erased.ofTexts m (m' :: texts)).snapshot
          = ⟨⟨erasedTypeName, m⟩, (Erased.ofTexts m' texts).snapshot.chain⟩ := rfl
        _ = ⟨⟨erasedTypeName, m⟩, (m' :: texts).map (Link.mk erasedTypeName)⟩ := by
          rw [ih]
          rfl
  exact (recursion r.message r.sources).symm

/-- wrapping an error is the loop, from the cause of the error itself on -/
theorem causes_eq_collect (payload : Option Bytes) :
    (RemoteFailure.ofDeclared r payload).causes = r.erased.collect [⟨r.typeName, r.message, payload⟩] := by
  have texts : r.sources = r.erased.sources.map Erased.message := (Erased.messages_ofTexts r.message r.sources).symm
  rw [Erased.collect_eq, RemoteFailure.ofDeclared, texts, List.map_map]
  rfl

/-- the envelope `f`, made of an error of report `r` whose encoding is `payload`, and the captured failures of that error tell
the same of it -/
structure SameStory (payload : Option Bytes) (f : RemoteFailure) : Prop where
  /-- the causes are collected source by source -/
  collected : f.causes = r.erased.collect [⟨r.typeName, r.message, payload⟩]
  /-- a captured failure is the snapshot of the error, under the name of its type where this is known -/
  erased : CapturedFailure.ofErased r = r.erased.snapshot
  typed : CapturedFailure.capture r = { r.erased.snapshot with head := ⟨r.typeName, r.message⟩ }
  /-- both tell the same links in the same order: the error under the name of its type, then its sources under that of an
  error whose type is not known -/
  links : f.causes.map RemoteCause.link = (CapturedFailure.capture r).chain
  chain : (CapturedFailure.capture r).chain = ⟨r.typeName, r.message⟩ :: r.erased.sources.map Erased.link
  /-- only the first cause may carry an encoding -/
  encoded : ∃ first later, f.causes = first :: later ∧ first.declared = payload ∧ ∀ c ∈ later, c.declared = none
  /-- capturing a capture changes nothing but the name of the type -/
  stable : CapturedFailure.ofErased (CapturedFailure.ofErased r).report = CapturedFailure.ofErased r
  kept : (CapturedFailure.capture (CapturedFailure.capture r).report).chain.map Link.message =
    (CapturedFailure.capture r).chain.map Link.message
  length : (CapturedFailure.capture (CapturedFailure.capture r).report).chain.length =
    (CapturedFailure.capture r).chain.length

/-- the chain of a captured failure under the name of its type -/
theorem chain_capture :
    (CapturedFailure.capture r).chain = ⟨r.typeName, r.message⟩ :: r.erased.sources.map Erased.link := by
  have below : (CapturedFailure.ofErased r).sources = r.erased.sources.map Erased.link := by
    have whole : (CapturedFailure.ofErased r).chain = r.erased.link :: r.erased.sources.map Erased.link := by
      rw [r.ofErased_eq_snapshot, Erased.chain_snapshot]
    exact List.tail_eq_of_cons_eq whole
  rw [CapturedFailure.chain, CapturedFailure.capture, below]

theorem ofErased_report_ofErased :
    CapturedFailure.ofErased (CapturedFailure.ofErased r).report = CapturedFailure.ofErased r :=
  calc
    CapturedFailure.ofErased (CapturedFailure.ofErased r).report
      = r.erased.snapshot.report.erased.snapshot := by rw [ofErased_eq_snapshot, ofErased_eq_snapshot]
    _ = r.erased.snapshot := by rw [Erased.erased_snapshot]
    _ = CapturedFailure.ofErased r := r.ofErased_eq_snapshot.symm

/-- a captured failure under the name of its type is seen as the error that was captured -/
theorem erased_report_capture : (CapturedFailure.capture r).report.erased = r.erased :=
  calc
    (CapturedFailure.capture r).report.erased = (CapturedFailure.ofErased r).report.erased := rfl
    _ = r.erased.snapshot.report.erased := by rw [ofErased_eq_snapshot]
    _ = r.erased := Erased.erased_snapshot _

theorem messages_capture_report_capture :
    (CapturedFailure.capture (CapturedFailure.capture r).report).chain.map Link.message =
      (CapturedFailure.capture r).chain.map Link.message := by
  rw [chain_capture, erased_report_capture, chain_capture]
  rfl

/-- every envelope that wraps an error tells the story of its captured failures -/
theorem sameStory_ofDeclared (payload : Option Bytes) : r.SameStory payload (.ofDeclared r payload) := by
  have sources : r.sources.map (Link.mk erasedTypeName) = r.erased.sources.map Erased.link := by
    rw [← Erased.messages_ofTexts r.message r.sources, List.map_map]
    rfl
  refine ⟨r.causes_eq_collect payload, r.ofErased_eq_snapshot, ?typed, ?links, r.chain_capture, ?encoded,
    r.ofErased_report_ofErased, r.messages_capture_report_capture, ?length⟩
  case typed => rw [CapturedFailure.capture, ofErased_eq_snapshot]
  case links =>
    rw [chain_capture, ← sources, RemoteFailure.ofDeclared, List.map_cons, List.map_map]
    rfl
  case encoded =>
    refine ⟨_, _, rfl, rfl, fun c hc => ?_⟩
    obtain ⟨m, -, rfl⟩ := List.mem_map.mp hc
    rfl
  case length => simpa using congrArg List.length r.messages_capture_report_capture

end Report

/-- a declared error is always wrapped, with the encoding that the codec gives -/
theorem Invoker.exists_declaredFailure (codec : Codec) (E : ErrorType) (e : E.Val) (w : World ι σ) :
    ∃ (encoding : Except CodecError Bytes) (w₁ w' : World ι σ), codec.serialize E.ty e w = (.ok encoding, w₁) ∧
      declaredFailure codec E e w = (.ok (.ofDeclared (E.report e) encoding.toOption), w') := by
  obtain ⟨encoding, w₁, encodes⟩ : ∃ encoding w₁, codec.serialize E.ty e w = (.ok encoding, w₁) := by
    rw [codec.serialize_eq]
    rcases codec.schedule with _ | s
    · exact ⟨_, _, rfl⟩
    · exact ⟨_, _, rfl⟩
  -- a refused encoding is logged before the error is wrapped without it
  rcases encoding with err | bs
  · exact ⟨_, w₁, _, encodes, bind_of_ok encodes⟩
  · exact ⟨_, w₁, w₁, encodes, bind_of_ok encodes⟩

/-- **Both snapshots of an error tell the same story.** Whatever the codec does with the encoding of a declared error, the
error is wrapped, and the causes of its envelope are the links of its captured failure: as many, with the same names and texts,
in the same order. Only the first cause may carry an encoding, and capturing a captured failure changes no text. -/
theorem snapshots_agree (codec : Codec) (E : ErrorType) (e : E.Val) (w : World ι σ) :
    ∃ (encoding : Except CodecError Bytes) (f : RemoteFailure) (w₁ w' : World ι σ),
      codec.serialize E.ty e w = (.ok encoding, w₁) ∧ Invoker.declaredFailure codec E e w = (.ok f, w') ∧
        (E.report e).SameStory encoding.toOption f := by
  obtain ⟨encoding, w₁, w', encodes, wraps⟩ := Invoker.exists_declaredFailure codec E e w
  exact ⟨encoding, _, w₁, w', encodes, wraps, (E.report e).sameStory_ofDeclared encoding.toOption⟩

end Loopback
