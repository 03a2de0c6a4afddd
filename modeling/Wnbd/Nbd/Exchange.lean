import Wnbd.Nbd.Negotiate

/-!
# The words each reader takes

The greeting, an option reply, the legacy answer and the loop over the replies,
each exact for a grammar.
-/

set_option autoImplicit false

namespace Wnbd.Nbd

open BigEndian ExactParser

/-! ## Fields -/

theorem number64_iff (word : List UInt8) (exact : word.length = 8) (value : UInt64) :
    UInt64.ofNat (ofBytes word) = value ↔ word = toBytes 8 value.toNat := by
  have small := ofBytes_lt word
  rw [exact] at small
  rw [← ofBytes_eq_iff word 8 value.toNat exact (value.toNat_lt.trans_le (by norm_num)),
    ← UInt64.toNat_inj, UInt64.toNat_ofNat_of_lt' (small.trans_le (by norm_num))]

theorem number32_iff (word : List UInt8) (exact : word.length = 4) (value : UInt32) :
    UInt32.ofNat (ofBytes word) = value ↔ word = toBytes 4 value.toNat := by
  have small := ofBytes_lt word
  rw [exact] at small
  rw [← ofBytes_eq_iff word 4 value.toNat exact (value.toNat_lt.trans_le (by norm_num)),
    ← UInt32.toNat_inj, UInt32.toNat_ofNat_of_lt' (small.trans_le (by norm_num))]

theorem number16_iff (word : List UInt8) (exact : word.length = 2) (value : UInt16) :
    UInt16.ofNat (ofBytes word) = value ↔ word = toBytes 2 value.toNat := by
  have small := ofBytes_lt word
  rw [exact] at small
  rw [← ofBytes_eq_iff word 2 value.toNat exact (value.toNat_lt.trans_le (by norm_num)),
    ← UInt16.toNat_inj, UInt16.toNat_ofNat_of_lt' (small.trans_le (by norm_num))]

/-! ## The greeting -/

def greeting (gFlags : UInt16) : List UInt8 :=
  initPasswd ++ toBytes 8 optionMagic.toNat ++ toBytes 2 gFlags.toNat

theorem nbdValidateOptionMagic_eq_zero (magic : UInt64) :
    nbdValidateOptionMagic magic = 0 ↔ magic = optionMagic := by
  unfold nbdValidateOptionMagic
  split_ifs with option client
  · exact iff_of_true rfl option
  · exact iff_of_false (by decide) option
  · exact iff_of_false (by decide) option

theorem nbdReceiveGreeting_exact :
    Exact Connection.unread (fun word gFlags => word = greeting gFlags) nbdReceiveGreeting := by
  have flags : Exact Connection.unread (fun word gFlags => word = toBytes 2 gFlags.toNat)
      (do
        let gFlags ← recvExact 2
        pure (UInt16.ofNat (ofBytes gFlags))) := by
    refine Exact.describe (Exact.bind (recvExact_exact 2) fun _ => Exact.pure _) ?_
    intro word gFlags
    constructor
    · rintro ⟨front, back, found, rfl, ⟨rfl, exact, _⟩, rfl, same⟩
      rw [List.append_nil]
      exact (number16_iff front exact gFlags).mp same
    · intro same
      have exact : word.length = 2 := by rw [same, toBytes_length]
      exact ⟨word, [], word, (List.append_nil _).symm, ⟨rfl, exact, by omega⟩, rfl,
        (number16_iff word exact gFlags).mpr same⟩
  refine Exact.describe (Exact.bind (recvExact_exact 8) fun buf => Exact.ite
    (fun _ => Exact.throw _) fun _ => Exact.bind (recvExact_exact 8) fun magic =>
      Exact.ite (fun _ => Exact.throw _) fun _ => flags) ?_
  intro word gFlags
  constructor
  · rintro ⟨front, rest, buf, rfl, ⟨rfl, _, _⟩, checked⟩
    split_ifs at checked with password
    · exact checked.elim
    obtain ⟨middle, back, magic, rfl, ⟨rfl, exact, _⟩, validated⟩ := checked
    split_ifs at validated with code
    · exact validated.elim
    have found := (nbdValidateOptionMagic_eq_zero _).mp (not_not.mp code)
    rw [greeting, not_not.mp password, (number64_iff middle exact _).mp found, validated,
      List.append_assoc]
  · rintro rfl
    refine ⟨initPasswd, _, initPasswd, List.append_assoc _ _ _, ⟨rfl, rfl, by omega⟩, ?_⟩
    dsimp only
    rw [if_neg (not_not.mpr rfl)]
    refine ⟨toBytes 8 optionMagic.toNat, _, _, rfl, ⟨rfl, toBytes_length _ _, by omega⟩, ?_⟩
    have magic := (number64_iff (toBytes 8 optionMagic.toNat) (toBytes_length _ _)
      optionMagic).mpr rfl
    have valid := (nbdValidateOptionMagic_eq_zero optionMagic).mpr rfl
    dsimp only
    rw [magic, if_neg (not_not.mpr valid)]

/-! ## Option replies -/

def NbdHandshakeRpl.encode (reply : NbdHandshakeRpl) : List UInt8 :=
  toBytes 8 replyMagic.toNat ++ (toBytes 4 reply.option.toNat ++
    (toBytes 4 reply.replyType.toNat ++ (toBytes 4 reply.data.length ++ reply.data)))

theorem header_split (header : List UInt8) (exact : header.length = 20) :
    ∃ magic option type size, header = magic ++ (option ++ (type ++ size)) ∧
      magic.length = 8 ∧ option.length = 4 ∧ type.length = 4 ∧ size.length = 4 := by
  refine ⟨header.take 8, (header.drop 8).take 4, ((header.drop 8).drop 4).take 4,
    ((header.drop 8).drop 4).drop 4, ?_, ?_, ?_, ?_, ?_⟩
  · rw [List.take_append_drop, List.take_append_drop, List.take_append_drop]
  all_goals simp [exact]

theorem field_append (front word back : List UInt8) (offset width : Nat)
    (starts : front.length = offset) (exact : word.length = width) :
    field (front ++ (word ++ back)) offset width = ofBytes word := by
  rw [field, ← starts, List.drop_left, ← exact, List.take_left]

theorem field_last (front word : List UInt8) (offset width : Nat)
    (starts : front.length = offset) (exact : word.length = width) :
    field (front ++ word) offset width = ofBytes word := by
  have found := field_append front word [] offset width starts exact
  rwa [List.append_nil] at found

theorem header_fields (magic option type size : List UInt8) (magicLength : magic.length = 8)
    (optionLength : option.length = 4) (typeLength : type.length = 4)
    (sizeLength : size.length = 4) :
    field (magic ++ (option ++ (type ++ size))) 0 8 = ofBytes magic ∧
      field (magic ++ (option ++ (type ++ size))) 8 4 = ofBytes option ∧
      field (magic ++ (option ++ (type ++ size))) 12 4 = ofBytes type ∧
      field (magic ++ (option ++ (type ++ size))) 16 4 = ofBytes size := by
  refine ⟨field_append [] magic _ 0 8 rfl magicLength,
    field_append magic option _ 8 4 magicLength optionLength, ?_, ?_⟩
  · rw [← List.append_assoc magic]
    exact field_append _ type size 12 4 (by simp [magicLength, optionLength]) typeLength
  · rw [← List.append_assoc option, ← List.append_assoc magic]
    exact field_last _ size 16 4 (by simp [magicLength, optionLength, typeLength]) sizeLength

theorem nbdReadHandshakeReply_exact :
    Exact Connection.unread (fun word reply => reply.data.length < 2 ^ 31 ∧ word = reply.encode)
      nbdReadHandshakeReply := by
  refine Exact.describe (Exact.bind (recvExact_exact 20) fun header => Exact.ite
    (fun _ => Exact.throw _) fun _ => Exact.bind (recvExact_exact _) fun data => Exact.pure _) ?_
  intro word reply
  constructor
  · rintro ⟨header, rest, _, rfl, ⟨rfl, exact, _⟩, checked⟩
    obtain ⟨magic, option, type, size, rfl, magicLength, optionLength, typeLength, sizeLength⟩ :=
      header_split header exact
    obtain ⟨magicField, optionField, typeField, sizeField⟩ :=
      header_fields magic option type size magicLength optionLength typeLength sizeLength
    rw [magicField, optionField, typeField, sizeField] at checked
    split_ifs at checked with other
    · exact checked.elim
    obtain ⟨data, nothing, _, rfl, ⟨rfl, dataLength, short⟩, rfl, rfl⟩ := checked
    refine ⟨dataLength ▸ short, ?_⟩
    have sizeSpelled := (number32_iff size sizeLength _).mp rfl
    rw [← dataLength] at sizeSpelled
    rw [NbdHandshakeRpl.encode, ← (number64_iff magic magicLength _).mp (not_not.mp other),
      ← (number32_iff option optionLength _).mp rfl, ← (number32_iff type typeLength _).mp rfl,
      ← sizeSpelled]
    simp only [List.append_assoc, List.append_nil]
  · rintro ⟨short, rfl⟩
    have sizeSpelled : (UInt32.ofNat reply.data.length).toNat = reply.data.length :=
      UInt32.toNat_ofNat_of_lt' (short.trans (by norm_num))
    have sizeBytes := (number32_iff (toBytes 4 reply.data.length) (toBytes_length _ _)
      (UInt32.ofNat reply.data.length)).mpr (by rw [sizeSpelled])
    obtain ⟨magicField, optionField, typeField, sizeField⟩ := header_fields
      (toBytes 8 replyMagic.toNat) (toBytes 4 reply.option.toNat)
      (toBytes 4 reply.replyType.toNat) (toBytes 4 reply.data.length) (toBytes_length _ _)
      (toBytes_length _ _) (toBytes_length _ _) (toBytes_length _ _)
    refine ⟨toBytes 8 replyMagic.toNat ++ (toBytes 4 reply.option.toNat ++
      (toBytes 4 reply.replyType.toNat ++ toBytes 4 reply.data.length)), reply.data, _,
      by simp only [NbdHandshakeRpl.encode, List.append_assoc], ⟨rfl, by simp, by omega⟩, ?_⟩
    dsimp only
    rw [magicField, optionField, typeField, sizeField, sizeBytes,
      (number64_iff _ (toBytes_length _ _) replyMagic).mpr rfl,
      (number32_iff _ (toBytes_length _ _) reply.option).mpr rfl,
      (number32_iff _ (toBytes_length _ _) reply.replyType).mpr rfl, if_neg (not_not.mpr rfl),
      sizeSpelled]
    exact ⟨reply.data, [], reply.data, (List.append_nil _).symm, ⟨rfl, rfl, short⟩, rfl, rfl⟩

/-! ## The legacy answer -/

/-- `Size`, `Flags` and the reserved bytes. -/
inductive LegacyWord (gFlags : UInt16) (negotiated : Negotiated) : Grammar UInt8 Negotiated
  | word (size : UInt64) (flags : UInt16) (reserved : List UInt8)
      (padded : reserved.length = if gFlags &&& nbdFlagNoZeroes ≠ 0 then 0 else 124) :
      LegacyWord gFlags negotiated (toBytes 8 size.toNat ++ toBytes 2 flags.toNat ++ reserved)
        { negotiated with size, flags }

theorem nbdParseSizes_eq (buf : List UInt8) (exact : buf.length = 10) :
    buf = toBytes 8 (nbdParseSizes buf).1.toNat ++ toBytes 2 (nbdParseSizes buf).2.toNat := by
  have sizeLength : (buf.take 8).length = 8 := by simp [exact]
  have flagsLength : ((buf.drop 8).take 2).length = 2 := by simp [exact]
  have size := (number64_iff (buf.take 8) sizeLength (nbdParseSizes buf).1).mp rfl
  have flags := (number16_iff ((buf.drop 8).take 2) flagsLength (nbdParseSizes buf).2).mp rfl
  have whole : (buf.drop 8).take 2 = buf.drop 8 := List.take_of_length_le (by simp [exact])
  rw [← size, ← flags, whole, List.take_append_drop]

theorem nbdParseSizes_toBytes (size : UInt64) (flags : UInt16) :
    nbdParseSizes (toBytes 8 size.toNat ++ toBytes 2 flags.toNat) = (size, flags) := by
  have sizeField : field (toBytes 8 size.toNat ++ toBytes 2 flags.toNat) 0 8 =
      ofBytes (toBytes 8 size.toNat) := field_append [] _ _ 0 8 rfl (toBytes_length _ _)
  have flagsField : field (toBytes 8 size.toNat ++ toBytes 2 flags.toNat) 8 2 =
      ofBytes (toBytes 2 flags.toNat) :=
    field_last _ _ 8 2 (toBytes_length _ _) (toBytes_length _ _)
  rw [nbdParseSizes, sizeField, flagsField, (number64_iff _ (toBytes_length _ _) size).mpr rfl,
    (number16_iff _ (toBytes_length _ _) flags).mpr rfl]

theorem nbdSendHandshakeRequest_exact (option : UInt32) (datasize : Nat) (data : List UInt8) :
    Exact Connection.unread (Grammar.nothing ())
      (nbdSendHandshakeRequest option datasize data) :=
  Exact.after (sendExact_exact _) (sendExact_exact _)

theorem nbdSendInfoRequest_exact (options : UInt32) (requests : List UInt16)
    (exportName : List UInt8) :
    Exact Connection.unread (Grammar.nothing ())
      (nbdSendInfoRequest options requests exportName) :=
  Exact.after (nbdSendHandshakeRequest_exact _ _ _) <| Exact.after (sendExact_exact _) <|
    Exact.after (sendExact_exact _) <| Exact.after (sendExact_exact _) (sendExact_exact _)

theorem nbdSendOptExportName_exact (exportName : List UInt8) (gFlags : UInt16)
    (negotiated : Negotiated) :
    Exact Connection.unread (LegacyWord gFlags negotiated)
      (nbdSendOptExportName exportName gFlags negotiated) := by
  refine Exact.after (nbdSendHandshakeRequest_exact _ _ _) (Exact.describe
    (Exact.bind (recvExact_exact 10) fun buf => Exact.ite (fun _ => Exact.pure _)
      fun _ => Exact.bind (recvExact_exact 124) fun _ => Exact.pure _) ?_)
  intro word value
  constructor
  · rintro ⟨buf, rest, _, rfl, ⟨rfl, exact, _⟩, reserved⟩
    rw [nbdParseSizes_eq buf exact]
    split_ifs at reserved with noZeroes
    · obtain ⟨rfl, rfl⟩ := reserved
      exact .word _ _ [] (by rw [if_pos noZeroes]; rfl)
    · obtain ⟨padding, nothing, _, rfl, ⟨rfl, padded, _⟩, rfl, rfl⟩ := reserved
      rw [List.append_nil]
      exact .word _ _ padding (by rw [if_neg noZeroes, padded])
  · rintro ⟨size, flags, reserved, padded⟩
    refine ⟨toBytes 8 size.toNat ++ toBytes 2 flags.toNat, reserved, _, rfl,
      ⟨rfl, by simp, by omega⟩, ?_⟩
    obtain ⟨sizeExact, flagsExact⟩ := Prod.mk.inj (nbdParseSizes_toBytes size flags)
    rw [sizeExact, flagsExact]
    split_ifs at padded ⊢ with noZeroes
    · exact ⟨List.length_eq_zero_iff.mp padded, rfl⟩
    · exact ⟨reserved, [], reserved, (List.append_nil _).symm, ⟨rfl, padded, by omega⟩, rfl, rfl⟩

/-! ## The loop -/

/-- The replies the loop takes, one constructor for each way a round goes on. -/
inductive LoopWord (gFlags : UInt16) : Negotiated → Grammar UInt8 Negotiated
  | finished (negotiated last : Negotiated) (reply : NbdHandshakeRpl)
      (short : reply.data.length < 2 ^ 31) (round : optGoRound negotiated reply = .finished last) :
      LoopWord gFlags negotiated reply.encode last
  | exportName (negotiated last : Negotiated) (reply : NbdHandshakeRpl) (word : List UInt8)
      (short : reply.data.length < 2 ^ 31) (round : optGoRound negotiated reply = .exportName)
      (legacy : LegacyWord gFlags negotiated word last) :
      LoopWord gFlags negotiated (reply.encode ++ word) last
  | more (negotiated next last : Negotiated) (reply : NbdHandshakeRpl) (word : List UInt8)
      (short : reply.data.length < 2 ^ 31) (round : optGoRound negotiated reply = .more next)
      (rest : LoopWord gFlags next word last) :
      LoopWord gFlags negotiated (reply.encode ++ word) last

theorem nbdNegotiateLoop_received {start after : Connection} {reply : NbdHandshakeRpl}
    (exportName : List UInt8) (gFlags : UInt16) (negotiated : Negotiated)
    (received : nbdReadHandshakeReply start = .ok (reply, after)) :
    nbdNegotiateLoop exportName gFlags negotiated start =
      match optGoRound negotiated reply with
      | .refused code => .error code
      | .exportName => nbdSendOptExportName exportName gFlags negotiated after
      | .finished negotiated => .ok (negotiated, after)
      | .more negotiated => nbdNegotiateLoop exportName gFlags negotiated after := by
  rw [nbdNegotiateLoop]
  split
  · rename_i error refused
    cases refused.symm.trans received
  · rename_i other last found
    cases found.symm.trans received
    rfl

/-- The loop succeeds only after a reply. -/
theorem nbdNegotiateLoop_receives {exportName : List UInt8} {gFlags : UInt16}
    {negotiated last : Negotiated} {start finish : Connection}
    (succeeded : Succeeds (nbdNegotiateLoop exportName gFlags negotiated) start last finish) :
    ∃ reply after, nbdReadHandshakeReply start = .ok (reply, after) := by
  rw [Succeeds, nbdNegotiateLoop] at succeeded
  split at succeeded
  · cases succeeded
  · rename_i reply after received
    exact ⟨reply, after, received⟩

theorem nbdNegotiateLoop_sound (exportName : List UInt8) (gFlags : UInt16)
    (negotiated last : Negotiated) (start finish : Connection)
    (succeeded : Succeeds (nbdNegotiateLoop exportName gFlags negotiated) start last finish) :
    ∃ word, LoopWord gFlags negotiated word last ∧ start.unread = word ++ finish.unread := by
  induction size : start.unread.length using Nat.strong_induction_on
    generalizing start negotiated with
  | _ size hypothesis =>
      obtain ⟨reply, after, received⟩ := nbdNegotiateLoop_receives succeeded
      rw [Succeeds, nbdNegotiateLoop_received exportName gFlags negotiated received] at succeeded
      obtain ⟨_, ⟨short, rfl⟩, taken⟩ :=
        nbdReadHandshakeReply_exact.sound start reply after received
      cases round : optGoRound negotiated reply with
      | refused code => simp [round] at succeeded
      | exportName =>
          rw [round] at succeeded
          obtain ⟨word, legacy, split⟩ := (nbdSendOptExportName_exact exportName gFlags
            negotiated).sound after last finish succeeded
          exact ⟨_, .exportName _ _ reply word short round legacy,
            by rw [taken, split, List.append_assoc]⟩
      | finished found =>
          rw [round] at succeeded
          cases succeeded
          exact ⟨_, .finished _ _ reply short round, taken⟩
      | more next =>
          rw [round] at succeeded
          obtain ⟨word, rest, split⟩ := hypothesis after.unread.length
            (size ▸ nbdReadHandshakeReply_shortens received) next after succeeded rfl
          exact ⟨_, .more _ _ _ reply word short round rest,
            by rw [taken, split, List.append_assoc]⟩

theorem nbdNegotiateLoop_complete (exportName : List UInt8) (gFlags : UInt16)
    (negotiated last : Negotiated) (word : List UInt8)
    (parsed : LoopWord gFlags negotiated word last) (start : Connection) (rest : List UInt8)
    (split : start.unread = word ++ rest) :
    ∃ finish, Succeeds (nbdNegotiateLoop exportName gFlags negotiated) start last finish ∧
      finish.unread = rest := by
  -- Each case reads its reply and follows the round.
  have read : ∀ (reply : NbdHandshakeRpl) (start : Connection) (rest : List UInt8),
      reply.data.length < 2 ^ 31 → start.unread = reply.encode ++ rest →
      ∃ after, nbdReadHandshakeReply start = .ok (reply, after) ∧ after.unread = rest :=
    fun reply start rest short split =>
      nbdReadHandshakeReply_exact.complete start reply.encode reply rest ⟨short, rfl⟩ split
  induction parsed generalizing start with
  | finished negotiated last reply short round =>
      obtain ⟨after, received, left⟩ := read reply start rest short split
      refine ⟨after, ?_, left⟩
      rw [Succeeds, nbdNegotiateLoop_received _ _ _ received, round]
  | exportName negotiated last reply word short round legacy =>
      rw [List.append_assoc] at split
      obtain ⟨after, received, left⟩ := read reply start _ short split
      obtain ⟨finish, ran, rested⟩ := (nbdSendOptExportName_exact exportName gFlags
        negotiated).complete after word last rest legacy left
      refine ⟨finish, ?_, rested⟩
      rw [Succeeds, nbdNegotiateLoop_received _ _ _ received, round]
      exact ran
  | more negotiated next last reply word short round _ hypothesis =>
      rw [List.append_assoc] at split
      obtain ⟨after, received, left⟩ := read reply start _ short split
      obtain ⟨finish, ran, rested⟩ := hypothesis after left
      refine ⟨finish, ?_, rested⟩
      rw [Succeeds, nbdNegotiateLoop_received _ _ _ received, round]
      exact ran

theorem nbdNegotiateLoop_exact (exportName : List UInt8) (gFlags : UInt16)
    (negotiated : Negotiated) :
    Exact Connection.unread (LoopWord gFlags negotiated)
      (nbdNegotiateLoop exportName gFlags negotiated) :=
  ⟨fun start last finish => nbdNegotiateLoop_sound exportName gFlags negotiated last start finish,
    fun start word last rest parsed =>
      nbdNegotiateLoop_complete exportName gFlags negotiated last word parsed start rest⟩

/-! ## The negotiation -/

/-- A greeting of a fixed newstyle server and what the loop takes after it. -/
def NegotiationWord (negotiated : Negotiated) : Grammar UInt8 Negotiated := fun word last =>
  ∃ gFlags back, word = greeting gFlags ++ back ∧
    gFlags.toUInt32 &&& nbdFlagFixedNewstyle ≠ 0 ∧
    LoopWord gFlags { negotiated with seenExport := false } back last

theorem maskedFlags (gFlags : UInt16) :
    nbdRequireFixedNewstyle (nbdMaskClientFlags
      (if gFlags &&& nbdFlagNoZeroes ≠ 0 then nbdFlagFixedNewstyle ||| nbdFlagNoZeroes.toUInt32
        else nbdFlagFixedNewstyle) gFlags) = 0 ↔
      gFlags.toUInt32 &&& nbdFlagFixedNewstyle ≠ 0 := by
  have masked : (nbdMaskClientFlags
      (if gFlags &&& nbdFlagNoZeroes ≠ 0 then nbdFlagFixedNewstyle ||| nbdFlagNoZeroes.toUInt32
        else nbdFlagFixedNewstyle) gFlags) &&& nbdFlagFixedNewstyle =
      gFlags.toUInt32 &&& nbdFlagFixedNewstyle := by
    simp only [nbdMaskClientFlags]
    rw [UInt32.and_assoc, UInt32.and_comm _ (gFlags.toUInt32 &&& _), UInt32.and_assoc]
    congr 1
    split_ifs <;> decide
  rw [nbdRequireFixedNewstyle, masked]
  split_ifs with fixed
  · exact iff_of_true rfl fixed
  · exact iff_of_false (by decide) fixed

theorem nbdNegotiate_exact (exportName : List UInt8) (negotiated : Negotiated) :
    Exact Connection.unread (NegotiationWord negotiated)
      (nbdNegotiate exportName nbdFlagFixedNewstyle negotiated) := by
  refine Exact.describe (Exact.bind nbdReceiveGreeting_exact fun gFlags => Exact.ite
    (fun _ => Exact.throw _) fun _ => Exact.after (sendExact_exact _) (Exact.after
      (nbdSendInfoRequest_exact _ _ _) (nbdNegotiateLoop_exact exportName gFlags _))) ?_
  intro word last
  constructor
  · rintro ⟨front, back, gFlags, rfl, rfl, checked⟩
    by_cases fixed : gFlags.toUInt32 &&& nbdFlagFixedNewstyle ≠ 0
    · have accepted := (maskedFlags gFlags).mpr fixed
      rw [if_neg (not_not.mpr accepted)] at checked
      exact ⟨gFlags, back, rfl, fixed, checked⟩
    · rw [if_pos (mt (maskedFlags gFlags).mp fixed)] at checked
      exact checked.elim
  · rintro ⟨gFlags, back, rfl, fixed, parsed⟩
    refine ⟨greeting gFlags, back, gFlags, rfl, rfl, ?_⟩
    have accepted := (maskedFlags gFlags).mpr fixed
    dsimp only
    rw [if_neg (not_not.mpr accepted)]
    exact parsed

end Wnbd.Nbd
