import Wnbd.Nbd.Exchange

/-!
# The grammar of a successful negotiation

A transcript is what the server sends: a greeting, option replies the client
passes over, and an ending, either an acknowledgement or a refusal of the option
followed by the legacy answer.  `nbd_negotiation_grammar` says that the
negotiation succeeds on the streams that start with a valid one.
-/

set_option autoImplicit false

namespace Wnbd.Nbd

open BigEndian ExactParser

/-! ## Option replies that are passed over -/

/-- An info reply of this kind. -/
def NbdHandshakeRpl.isInfo (reply : NbdHandshakeRpl) (kind : UInt16) : Prop :=
  reply.replyType = nbdRepInfo ∧ infoType reply.data = kind

instance (reply : NbdHandshakeRpl) (kind : UInt16) : Decidable (reply.isInfo kind) :=
  inferInstanceAs (Decidable (_ ∧ _))

abbrev NbdHandshakeRpl.isExport (reply : NbdHandshakeRpl) : Prop := reply.isInfo nbdInfoExport

abbrev NbdHandshakeRpl.isBlockSize (reply : NbdHandshakeRpl) : Prop :=
  reply.isInfo nbdInfoBlockSize

structure Ordinary (reply : NbdHandshakeRpl) : Prop where
  noError : reply.replyType &&& nbdRepFlagError = 0
  notAck : reply.replyType ≠ nbdRepAck
  infoLength : reply.replyType = nbdRepInfo → 2 ≤ reply.data.length
  exportLength : reply.isExport → reply.data.length = 12
  blockSizeLength : reply.isBlockSize → reply.data.length = 14

/-- The size and flags behind the type of an export info. -/
def exportOf (reply : NbdHandshakeRpl) : Option (UInt64 × UInt16) :=
  if reply.isExport then
    some (UInt64.ofNat (field reply.data 2 8), UInt16.ofNat (field reply.data 10 2))
  else none

def blockSizeOf (reply : NbdHandshakeRpl) : Option NbdBlockSizeInfo :=
  if reply.isBlockSize then
    some ⟨UInt32.ofNat (field reply.data 2 4), UInt32.ofNat (field reply.data 6 4),
      UInt32.ofNat (field reply.data 10 4), true⟩
  else none

/-- What a reply leaves in the out parameters. -/
def absorb (negotiated : Negotiated) (reply : NbdHandshakeRpl) : Negotiated :=
  { size := ((exportOf reply).getD (negotiated.size, negotiated.flags)).1
    flags := ((exportOf reply).getD (negotiated.size, negotiated.flags)).2
    blockSizeInfo := negotiated.blockSizeInfo.map fun found => (blockSizeOf reply).getD found
    seenExport := negotiated.seenExport || (exportOf reply).isSome }

theorem nbdParseSizes_drop (data : List UInt8) :
    nbdParseSizes (data.drop 2) =
      (UInt64.ofNat (field data 2 8), UInt16.ofNat (field data 10 2)) := by
  simp only [nbdParseSizes, field, List.drop_drop]

theorem absorb_blockSizeInfo (negotiated : Negotiated) (reply : NbdHandshakeRpl)
    (found : NbdBlockSizeInfo) (supplied : negotiated.blockSizeInfo = some found) :
    (absorb negotiated reply).blockSizeInfo = some ((blockSizeOf reply).getD found) := by
  simp only [absorb, supplied, Option.map_some]

/-- A parser that answers one kind of info reply and leaves the value alone for
every other reply. -/
theorem parsed_iff {α : Type} (reply : NbdHandshakeRpl) (infoKind : UInt16) (width : Nat)
    (unchanged parsed last : α) :
    (if reply.replyType ≠ nbdRepInfo then (.ok unchanged : Except UInt32 α)
      else if reply.data.length < 2 then .error errorBadFormat
      else if infoType reply.data ≠ infoKind then .ok unchanged
      else if reply.data.length ≠ width then .error errorBadFormat
      else .ok parsed) = .ok last ↔
      (reply.replyType = nbdRepInfo → 2 ≤ reply.data.length) ∧
        (reply.isInfo infoKind → reply.data.length = width) ∧
        last = if reply.isInfo infoKind then parsed else unchanged := by
  unfold NbdHandshakeRpl.isInfo
  by_cases info : reply.replyType = nbdRepInfo
  · by_cases short : reply.data.length < 2
    · simp [info, short]
    by_cases kind : infoType reply.data = infoKind
    · by_cases exact : reply.data.length = width
      · have wide := not_lt.mp short
        rw [exact] at short wide
        simp [info, kind, exact, short, wide, eq_comm]
      · simp [info, short, kind, exact]
    · simp [info, short, kind, not_lt.mp short, eq_comm]
  · simp [info, eq_comm]

theorem nbdParseOptGoReply_ok (negotiated last : Negotiated) (reply : NbdHandshakeRpl)
    (notAck : reply.replyType ≠ nbdRepAck) :
    nbdParseOptGoReply reply.replyType reply.data negotiated = .ok last ↔
      (reply.replyType = nbdRepInfo → 2 ≤ reply.data.length) ∧
        (reply.isExport → reply.data.length = 12) ∧
        last = { absorb negotiated reply with blockSizeInfo := negotiated.blockSizeInfo } := by
  unfold nbdParseOptGoReply
  rw [if_neg notAck, nbdParseSizes_drop]
  refine (parsed_iff reply nbdInfoExport 12 negotiated _ last).trans
    (and_congr_right fun _ => and_congr_right fun _ => ?_)
  by_cases isExport : reply.isExport
  · simp [absorb, exportOf, isExport]
  · simp [absorb, exportOf, isExport]

theorem parseBlockSizes_ok (negotiated last : Negotiated) (reply : NbdHandshakeRpl)
    (found : NbdBlockSizeInfo) (supplied : negotiated.blockSizeInfo = some found) :
    parseBlockSizes reply.replyType reply.data negotiated = .ok last ↔
      (reply.replyType = nbdRepInfo → 2 ≤ reply.data.length) ∧
        (reply.isBlockSize → reply.data.length = 14) ∧
        last = { negotiated with blockSizeInfo := some ((blockSizeOf reply).getD found) } := by
  have parsed : ∀ sizes, nbdParseInfoBlockSize reply.replyType reply.data found = .ok sizes ↔ _ :=
    fun sizes => parsed_iff reply nbdInfoBlockSize 14 found _ sizes
  have chosen : (if reply.isBlockSize then
      ⟨UInt32.ofNat (field reply.data 2 4), UInt32.ofNat (field reply.data 6 4),
        UInt32.ofNat (field reply.data 10 4), true⟩ else found) =
      (blockSizeOf reply).getD found := by
    by_cases isBlockSize : reply.isBlockSize
    · rw [if_pos isBlockSize, blockSizeOf, if_pos isBlockSize, Option.getD_some]
    · rw [if_neg isBlockSize, blockSizeOf, if_neg isBlockSize, Option.getD_none]
  simp only [parseBlockSizes, supplied]
  cases outcome : nbdParseInfoBlockSize reply.replyType reply.data found with
  | error code =>
      refine iff_of_false (by simp) fun claim => ?_
      cases outcome.symm.trans ((parsed _).mpr ⟨claim.1, claim.2.1, rfl⟩)
  | ok sizes =>
      obtain ⟨long, exact, same⟩ := (parsed sizes).mp outcome
      rw [chosen] at same
      dsimp only
      rw [same, Except.ok.injEq]
      exact ⟨fun equal => ⟨long, exact, equal.symm⟩, fun claim => claim.2.2.symm⟩

/-! ## Rounds -/

theorem optGoRound_exportName_iff (negotiated : Negotiated) (reply : NbdHandshakeRpl) :
    optGoRound negotiated reply = .exportName ↔ reply.replyType = nbdRepErrUnsup := by
  by_cases error : reply.replyType &&& nbdRepFlagError ≠ 0
  · rw [optGoRound, if_pos error]
    split_ifs with unsup
    · exact iff_of_true rfl unsup
    all_goals exact iff_of_false (by simp) unsup
  · refine iff_of_false ?_ ?_
    · rw [optGoRound, if_neg error]
      split
      · simp
      · split
        · simp
        · split_ifs <;> simp
    · rintro same
      rw [same] at error
      exact error (by decide)

theorem nbdParseOptGoReply_ack (negotiated last : Negotiated) (reply : NbdHandshakeRpl)
    (ack : reply.replyType = nbdRepAck) :
    nbdParseOptGoReply reply.replyType reply.data negotiated = .ok last ↔
      reply.data = [] ∧ negotiated.seenExport = true ∧ last = negotiated := by
  unfold nbdParseOptGoReply
  rw [if_pos ack, ← List.length_eq_zero_iff]
  split_ifs with long seen
  · exact iff_of_false (by simp) fun claim => long claim.1
  · simp [not_not.mp long, seen, eq_comm]
  · simp [seen]

theorem parseBlockSizes_ack (negotiated : Negotiated) (reply : NbdHandshakeRpl)
    (ack : reply.replyType = nbdRepAck) :
    parseBlockSizes reply.replyType reply.data negotiated = .ok negotiated := by
  have notInfo : nbdRepAck ≠ nbdRepInfo := by decide
  unfold parseBlockSizes
  cases supplied : negotiated.blockSizeInfo with
  | none => rfl
  | some found =>
      simp only [nbdParseInfoBlockSize, ack]
      rw [if_pos notInfo]
      dsimp only
      rw [← supplied]

/-- A round that ends the loop has read an acknowledgement of an export. -/
theorem optGoRound_finished_iff (negotiated last : Negotiated) (reply : NbdHandshakeRpl) :
    optGoRound negotiated reply = .finished last ↔
      reply.replyType = nbdRepAck ∧ reply.data = [] ∧ negotiated.seenExport = true ∧
        last = negotiated := by
  by_cases ack : reply.replyType = nbdRepAck
  · have noError : ¬ reply.replyType &&& nbdRepFlagError ≠ 0 := by
      rw [ack]
      decide
    rw [optGoRound, if_neg noError]
    have parsed := fun last => nbdParseOptGoReply_ack negotiated last reply ack
    cases outcome : nbdParseOptGoReply reply.replyType reply.data negotiated with
    | error code =>
        refine iff_of_false (by simp) fun claim => ?_
        cases outcome.symm.trans ((parsed negotiated).mpr ⟨claim.2.1, claim.2.2.1, rfl⟩)
    | ok found =>
        obtain ⟨empty, seen, same⟩ := (parsed found).mp outcome
        dsimp only
        rw [same, parseBlockSizes_ack negotiated reply ack]
        dsimp only
        rw [if_pos ack, Round.finished.injEq]
        exact ⟨fun equal => ⟨ack, empty, seen, equal.symm⟩, fun claim => claim.2.2.2.symm⟩
  · refine iff_of_false ?_ fun claim => ack claim.1
    by_cases error : reply.replyType &&& nbdRepFlagError ≠ 0
    · rw [optGoRound, if_pos error]
      split_ifs <;> simp
    · rw [optGoRound, if_neg error]
      split
      · simp
      · split
        · simp
        · rw [if_neg ack]
          simp

theorem optGoRound_more_iff (negotiated last : Negotiated) (reply : NbdHandshakeRpl)
    (found : NbdBlockSizeInfo) (supplied : negotiated.blockSizeInfo = some found) :
    optGoRound negotiated reply = .more last ↔ Ordinary reply ∧ last = absorb negotiated reply := by
  by_cases error : reply.replyType &&& nbdRepFlagError = 0
  · by_cases ack : reply.replyType = nbdRepAck
    · refine iff_of_false ?_ fun claim => claim.1.notAck ack
      rw [optGoRound, if_neg (not_not.mpr error)]
      split
      · simp
      · split
        · simp
        · rw [if_pos ack]
          simp
    rw [optGoRound, if_neg (not_not.mpr error)]
    have parsed := fun last => nbdParseOptGoReply_ok negotiated last reply ack
    cases outcome : nbdParseOptGoReply reply.replyType reply.data negotiated with
    | error code =>
        refine iff_of_false (by simp) fun claim => ?_
        cases outcome.symm.trans
          ((parsed _).mpr ⟨claim.1.infoLength, claim.1.exportLength, rfl⟩)
    | ok sized =>
        obtain ⟨long, exact, same⟩ := (parsed sized).mp outcome
        have stillSupplied : sized.blockSizeInfo = some found := by
          rw [same]
          exact supplied
        have blockSizes := fun last => parseBlockSizes_ok sized last reply found stillSupplied
        dsimp only
        cases second : parseBlockSizes reply.replyType reply.data sized with
        | error code =>
            refine iff_of_false (by simp) fun claim => ?_
            cases second.symm.trans ((blockSizes _).mpr ⟨long, claim.1.blockSizeLength, rfl⟩)
        | ok last' =>
            obtain ⟨_, blockExact, result⟩ := (blockSizes last').mp second
            have absorbed : last' = absorb negotiated reply := by
              rw [result, same]
              simp [absorb, supplied]
            dsimp only
            rw [if_neg ack, Round.more.injEq, absorbed]
            exact ⟨fun equal => ⟨⟨error, ack, long, exact, blockExact⟩, equal.symm⟩,
              fun claim => claim.2.symm⟩
  · refine iff_of_false ?_ fun claim => error claim.1.noError
    rw [optGoRound, if_pos error]
    split_ifs <;> simp

/-! ## Transcripts -/

inductive Ending
  | ack (option : UInt32)
  /-- The refusal with its message, and the answer to `NBD_OPT_EXPORT_NAME`. -/
  | legacy (option : UInt32) (message : List UInt8) (size : UInt64) (flags : UInt16)
      (reserved : List UInt8)

structure Transcript where
  gFlags : UInt16
  replies : List NbdHandshakeRpl
  ending : Ending

def Ending.encode : Ending → List UInt8
  | .ack option => NbdHandshakeRpl.encode ⟨option, nbdRepAck, []⟩
  | .legacy option message size flags reserved =>
      NbdHandshakeRpl.encode ⟨option, nbdRepErrUnsup, message⟩ ++
        (toBytes 8 size.toNat ++ toBytes 2 flags.toNat ++ reserved)

def Transcript.encode (transcript : Transcript) : List UInt8 :=
  greeting transcript.gFlags ++
    (transcript.replies.flatMap NbdHandshakeRpl.encode ++ transcript.ending.encode)

/-- The exports the server describes, in order. -/
def exports (replies : List NbdHandshakeRpl) : List (UInt64 × UInt16) :=
  replies.filterMap exportOf

def blockSizes (replies : List NbdHandshakeRpl) : List NbdBlockSizeInfo :=
  replies.filterMap blockSizeOf

/-- An acknowledgement follows an export; the legacy answer is padded unless the
server offered to leave the zeroes out. -/
def Ending.Valid (gFlags : UInt16) (exported : Prop) : Ending → Prop
  | .ack _ => exported
  | .legacy _ message _ _ reserved => message.length < 2 ^ 31 ∧
      reserved.length = if gFlags &&& nbdFlagNoZeroes ≠ 0 then 0 else 124

structure Transcript.Valid (transcript : Transcript) : Prop where
  fixedNewstyle : transcript.gFlags.toUInt32 &&& nbdFlagFixedNewstyle ≠ 0
  ordinary : ∀ reply ∈ transcript.replies, Ordinary reply ∧ reply.data.length < 2 ^ 31
  ended : transcript.ending.Valid transcript.gFlags (exports transcript.replies ≠ [])

/-- The size and flags of the last export, or those of the legacy answer. -/
def Transcript.sizes (transcript : Transcript) : Option (UInt64 × UInt16) :=
  match transcript.ending with
  | .ack _ => (exports transcript.replies).getLast?
  | .legacy _ _ size flags _ => some (size, flags)

/-! ### The state after the replies -/

theorem foldl_getD {α β : Type} (found : α → Option β) (elements : List α) (start : β) :
    elements.foldl (fun value element => (found element).getD value) start =
      (elements.filterMap found).getLast?.getD start := by
  induction elements generalizing start with
  | nil => rfl
  | cons element rest hypothesis =>
      rw [List.foldl_cons, hypothesis]
      cases value : found element with
      | none => rw [List.filterMap_cons_none value, Option.getD_none]
      | some value' =>
          rw [List.filterMap_cons_some value, List.getLast?_cons, Option.getD_some,
            Option.getD_some]

section Absorbed

variable (replies : List NbdHandshakeRpl) (negotiated : Negotiated)

theorem absorbed_sizes :
    ((replies.foldl absorb negotiated).size, (replies.foldl absorb negotiated).flags) =
      (exports replies).getLast?.getD (negotiated.size, negotiated.flags) := by
  rw [exports, ← foldl_getD]
  induction replies generalizing negotiated with
  | nil => rfl
  | cons reply rest hypothesis => exact hypothesis (absorb negotiated reply)

theorem absorbed_blockSizeInfo (found : NbdBlockSizeInfo)
    (supplied : negotiated.blockSizeInfo = some found) :
    (replies.foldl absorb negotiated).blockSizeInfo =
      some ((blockSizes replies).getLast?.getD found) := by
  rw [blockSizes, ← foldl_getD]
  induction replies generalizing negotiated found with
  | nil => exact supplied
  | cons reply rest hypothesis =>
      exact hypothesis (absorb negotiated reply) _
        (absorb_blockSizeInfo negotiated reply found supplied)

theorem absorbed_seenExport :
    (replies.foldl absorb negotiated).seenExport = true ↔
      negotiated.seenExport = true ∨ exports replies ≠ [] := by
  induction replies generalizing negotiated with
  | nil => simp [exports]
  | cons reply rest hypothesis =>
      rw [List.foldl_cons, hypothesis]
      cases value : exportOf reply with
      | none => simp [absorb, exports, value]
      | some sizes => simp [absorb, exports, value]

end Absorbed

/-! ### The loop takes the rest of a transcript -/

/-- What the ending leaves in the out parameters. -/
def Ending.result (negotiated : Negotiated) : Ending → Negotiated
  | .ack _ => negotiated
  | .legacy _ _ size flags _ => { negotiated with size, flags }

theorem loopWord_sound (gFlags : UInt16) (negotiated last : Negotiated) (found : NbdBlockSizeInfo)
    (supplied : negotiated.blockSizeInfo = some found) (word : List UInt8)
    (parsed : LoopWord gFlags negotiated word last) :
    ∃ (replies : List NbdHandshakeRpl) (ending : Ending),
      (∀ reply ∈ replies, Ordinary reply ∧ reply.data.length < 2 ^ 31) ∧
      ending.Valid gFlags ((replies.foldl absorb negotiated).seenExport = true) ∧
      word = replies.flatMap NbdHandshakeRpl.encode ++ ending.encode ∧
      last = ending.result (replies.foldl absorb negotiated) := by
  induction parsed generalizing found with
  | finished negotiated last reply short round =>
      obtain ⟨ack, empty, seen, rfl⟩ := (optGoRound_finished_iff negotiated last reply).mp round
      refine ⟨[], .ack reply.option, by simp, seen, ?_, rfl⟩
      rw [Ending.encode, ← ack, ← empty]
      rfl
  | exportName negotiated last reply word short round legacy =>
      have unsup := (optGoRound_exportName_iff negotiated reply).mp round
      obtain ⟨size, flags, reserved, padded⟩ := legacy
      refine ⟨[], .legacy reply.option reply.data size flags reserved, by simp, ⟨short, padded⟩,
        ?_, rfl⟩
      rw [Ending.encode, ← unsup]
      rfl
  | more negotiated next last reply word short round _ hypothesis =>
      obtain ⟨ordinary, rfl⟩ := (optGoRound_more_iff negotiated next reply found supplied).mp round
      obtain ⟨replies, ending, others, valid, rfl, rfl⟩ :=
        hypothesis _ (absorb_blockSizeInfo negotiated reply found supplied)
      refine ⟨reply :: replies, ending, ?_, valid, ?_, rfl⟩
      · exact List.forall_mem_cons.mpr ⟨⟨ordinary, short⟩, others⟩
      · rw [List.flatMap_cons, List.append_assoc]

theorem loopWord_complete (gFlags : UInt16) (negotiated : Negotiated) (found : NbdBlockSizeInfo)
    (supplied : negotiated.blockSizeInfo = some found) (replies : List NbdHandshakeRpl)
    (ending : Ending) (others : ∀ reply ∈ replies, Ordinary reply ∧ reply.data.length < 2 ^ 31)
    (valid : ending.Valid gFlags ((replies.foldl absorb negotiated).seenExport = true)) :
    LoopWord gFlags negotiated (replies.flatMap NbdHandshakeRpl.encode ++ ending.encode)
      (ending.result (replies.foldl absorb negotiated)) := by
  induction replies generalizing negotiated found with
  | nil =>
      cases ending with
      | ack option =>
          exact .finished negotiated negotiated ⟨option, nbdRepAck, []⟩ (by simp)
            ((optGoRound_finished_iff _ _ _).mpr ⟨rfl, rfl, valid, rfl⟩)
      | legacy option message size flags reserved =>
          exact .exportName negotiated _ ⟨option, nbdRepErrUnsup, message⟩ _ valid.1
            ((optGoRound_exportName_iff _ _).mpr rfl) (.word size flags reserved valid.2)
  | cons reply replies hypothesis =>
      obtain ⟨⟨ordinary, short⟩, rest⟩ := List.forall_mem_cons.mp others
      rw [List.flatMap_cons, List.append_assoc]
      exact .more negotiated (absorb negotiated reply) _ reply _ short
        ((optGoRound_more_iff negotiated _ reply found supplied).mpr ⟨ordinary, rfl⟩)
        (hypothesis (absorb negotiated reply) _
          (absorb_blockSizeInfo negotiated reply found supplied) rest valid)

/-! ## The negotiation -/

section Negotiation

variable (exportName : List UInt8) (size : UInt64) (flags : UInt16) (info : NbdBlockSizeInfo)

/-- The words of the negotiation are the valid transcripts, with their values. -/
theorem negotiationWord_iff (word : List UInt8) (last : Negotiated) :
    NegotiationWord ⟨size, flags, some info, false⟩ word last ↔
      ∃ transcript : Transcript, transcript.Valid ∧ word = transcript.encode ∧
        last = transcript.ending.result
          (transcript.replies.foldl absorb ⟨size, flags, some info, false⟩) := by
  constructor
  · rintro ⟨gFlags, back, rfl, fixed, parsed⟩
    obtain ⟨replies, ending, others, valid, rfl, result⟩ :=
      loopWord_sound gFlags ⟨size, flags, some info, false⟩ last info rfl back parsed
    refine ⟨⟨gFlags, replies, ending⟩, ⟨fixed, others, ?_⟩, rfl, result⟩
    simpa [absorbed_seenExport] using valid
  · rintro ⟨transcript, valid, rfl, rfl⟩
    refine ⟨transcript.gFlags, _, rfl, valid.fixedNewstyle, ?_⟩
    refine loopWord_complete transcript.gFlags ⟨size, flags, some info, false⟩ info rfl
      transcript.replies transcript.ending valid.ordinary ?_
    simpa [absorbed_seenExport] using valid.ended

theorem transcript_result (transcript : Transcript) (valid : transcript.Valid) :
    some ((transcript.ending.result (transcript.replies.foldl absorb
        ⟨size, flags, some info, false⟩)).size,
      (transcript.ending.result (transcript.replies.foldl absorb
        ⟨size, flags, some info, false⟩)).flags) = transcript.sizes ∧
      (transcript.ending.result (transcript.replies.foldl absorb
        ⟨size, flags, some info, false⟩)).blockSizeInfo =
        some ((blockSizes transcript.replies).getLast?.getD info) := by
  have sizes := absorbed_sizes transcript.replies ⟨size, flags, some info, false⟩
  have infos := absorbed_blockSizeInfo transcript.replies ⟨size, flags, some info, false⟩ info rfl
  have ended := valid.ended
  rw [Transcript.sizes]
  cases ending : transcript.ending with
  | ack option =>
      rw [ending] at ended
      refine ⟨?_, infos⟩
      obtain ⟨newest, last⟩ := Option.ne_none_iff_exists'.mp
        (mt List.getLast?_eq_none_iff.mp ended)
      dsimp only [Ending.result]
      rw [sizes, last, Option.getD_some]
  | legacy option message size flags reserved => exact ⟨rfl, infos⟩

/-- The negotiation succeeds exactly on the streams that start with a valid
transcript, takes that transcript and nothing else, and reports its values. -/
theorem nbd_negotiation_grammar (connection : Connection) :
    ((∃ last after, nbdNegotiate exportName nbdFlagFixedNewstyle ⟨size, flags, some info, false⟩
        connection = .ok (last, after)) ↔
      ∃ (transcript : Transcript) (rest : List UInt8),
        transcript.Valid ∧ connection.unread = transcript.encode ++ rest) ∧
    ∀ last after (transcript : Transcript) (rest : List UInt8),
      nbdNegotiate exportName nbdFlagFixedNewstyle ⟨size, flags, some info, false⟩ connection =
        .ok (last, after) →
      transcript.Valid → connection.unread = transcript.encode ++ rest →
      after.unread = rest ∧ some (last.size, last.flags) = transcript.sizes ∧
        last.blockSizeInfo = some ((blockSizes transcript.replies).getLast?.getD info) := by
  have exact := nbdNegotiate_exact exportName ⟨size, flags, some info, false⟩
  have words := negotiationWord_iff size flags info
  refine ⟨⟨?_, ?_⟩, ?_⟩
  · rintro ⟨last, after, succeeded⟩
    obtain ⟨word, parsed, split⟩ := exact.sound connection last after succeeded
    obtain ⟨transcript, valid, rfl, _⟩ := (words word last).mp parsed
    exact ⟨transcript, _, valid, split⟩
  · rintro ⟨transcript, rest, valid, split⟩
    obtain ⟨after, succeeded, _⟩ := exact.complete connection _ _ rest
      ((words _ _).mpr ⟨transcript, valid, rfl, rfl⟩) split
    exact ⟨_, after, succeeded⟩
  · intro last after transcript rest succeeded valid split
    obtain ⟨same, left⟩ := exact.consumed succeeded
      ((words _ _).mpr ⟨transcript, valid, rfl, rfl⟩) split
    rw [same]
    exact ⟨left, transcript_result size flags info transcript valid⟩

end Negotiation

end Wnbd.Nbd
