import CqlClient.Proofs.Frame.Transport
import CqlClient.Proofs.Wire.Canonical

/-!
Frames on a stream. Six checks are made of what stands at the front of a stream; the first one that
fails is reported, and if none does, one frame is taken off and nothing behind it. So from a stream
of frames that breaks off anywhere, all the frames that came whole are read.
-/

namespace CqlClient

namespace Frame

/-- Who sends a frame. -/
inductive Sender
  | node
  | client

namespace Sender

/-- The kinds of messages of a sender. -/
def Opcode : Sender → Type
  | .node => ResponseOpcode
  | .client => RequestOpcode

def code : (sender : Sender) → sender.Opcode → UInt8
  | .node => ResponseOpcode.code
  | .client => RequestOpcode.code

def opcodeOf? : (sender : Sender) → UInt8 → Option sender.Opcode
  | .node => ResponseOpcode.ofCode?
  | .client => RequestOpcode.ofCode?

/-- How the kinds are called where a number names none of them. -/
def enumeration : Sender → String
  | .node => "ResponseOpcode"
  | .client => "RequestOpcode"

/-- What all frames of a sender begin with: version and direction. -/
def firstByte : Sender → UInt8
  | .node => 0x82
  | .client => 0x02

/-- What is said of a frame that is not from this sender. -/
def wrongWay : Sender → FrameError
  | .node => .frameFromClient
  | .client => .frameFromServer

def read : (sender : Sender) → Bytes →
    Except FrameError ((Params × sender.Opcode × Bytes) × Bytes)
  | .node => splitResponse
  | .client => splitRequest

theorem opcodeOf?_code (sender : Sender) (opcode : sender.Opcode) :
    sender.opcodeOf? (sender.code opcode) = some opcode := by
  cases sender with
  | node => exact ResponseOpcode.ofCode?_code opcode
  | client => exact RequestOpcode.ofCode?_code opcode

theorem code_of_opcodeOf? {sender : Sender} {number : UInt8} {opcode : sender.Opcode}
    (h : sender.opcodeOf? number = some opcode) : sender.code opcode = number := by
  cases sender with
  | node =>
      simp only [opcodeOf?] at h
      unfold ResponseOpcode.ofCode? at h
      split at h <;> cases h <;> rfl
  | client =>
      simp only [opcodeOf?] at h
      unfold RequestOpcode.ofCode? at h
      split at h <;> cases h <;> rfl

theorem version_of_firstByte (sender : Sender) : sender.firstByte &&& 0x7F = version := by
  cases sender <;> rfl

theorem direction_of_version {first : UInt8} (h : first &&& 0x7F = version) :
    (first = node.firstByte ↔ first &&& responseBit ≠ 0) ∧
      (first = client.firstByte ↔ first &&& responseBit = 0) := by
  have hall : ∀ value : Fin 256, UInt8.ofFin value &&& 0x7F = version →
      (UInt8.ofFin value = node.firstByte ↔ UInt8.ofFin value &&& responseBit ≠ 0) ∧
        (UInt8.ofFin value = client.firstByte ↔ UInt8.ofFin value &&& responseBit = 0) := by
    decide +kernel
  exact hall first.toFin h

theorem read_of_split {sender : Sender} {bytes body rest : Bytes} {params : Params}
    {number : UInt8} (h : split bytes = .ok ((params, number, body), rest))
    (hversion : params.version &&& 0x7F = version) :
    sender.read bytes =
      if params.version = sender.firstByte then
        match sender.opcodeOf? number with
        | some opcode => .ok ((params, opcode, body), rest)
        | none => .error (.unknownOpcode ⟨sender.enumeration, number.toNat⟩)
      else .error sender.wrongWay := by
  have hdirection := direction_of_version hversion
  cases sender with
  | node =>
      simp only [read, splitResponse, h, bind, Except.bind, hdirection.1]
      by_cases hbit : params.version &&& responseBit = 0
      · rw [if_pos hbit, if_neg (not_not.mpr hbit)]
        rfl
      · rw [if_neg hbit, if_pos hbit, ResponseOpcode.ofCode]
        simp only [opcodeOf?]
        cases ResponseOpcode.ofCode? number <;> rfl
  | client =>
      simp only [read, splitRequest, h, bind, Except.bind, hdirection.2]
      by_cases hbit : params.version &&& responseBit = 0
      · rw [if_neg (not_not.mpr hbit), if_pos hbit, RequestOpcode.ofCode]
        simp only [opcodeOf?]
        cases RequestOpcode.ofCode? number <;> rfl
      · rw [if_pos hbit, if_neg hbit]
        rfl

theorem read_of_split_error {sender : Sender} {bytes : Bytes} {e : FrameError}
    (h : split bytes = .error e) : sender.read bytes = .error e := by
  cases sender with
  | node => rw [read, splitResponse, h]; rfl
  | client => rw [read, splitRequest, h]; rfl

end Sender

def byteAt (bytes : Bytes) (place : Nat) : UInt8 :=
  bytes.getD place 0

/-- The length that a header tells of the body. -/
def announced (bytes : Bytes) : Nat :=
  Bytes.toNat ((bytes.drop 4).take 4)

/-- What is checked before a frame is taken off a stream. -/
inductive Check
  | header
  | version
  | limit
  | body
  | direction
  | opcode
  deriving DecidableEq

namespace Check

def inOrder : List Check := [.header, .version, .limit, .body, .direction, .opcode]

/-- Whether a check holds of what stands at the front of a stream. -/
def Passed (sender : Sender) (bytes : Bytes) : Check → Prop
  | .header => headerSize ≤ bytes.length
  | .version => byteAt bytes 0 &&& 0x7F = Frame.version
  | .limit => announced bytes ≤ maxBodySize
  | .body => announced bytes ≤ bytes.length - headerSize
  | .direction => byteAt bytes 0 = sender.firstByte
  | .opcode => (sender.opcodeOf? (byteAt bytes 3)).isSome

instance (sender : Sender) (bytes : Bytes) (check : Check) :
    Decidable (check.Passed sender bytes) :=
  match check with
  | .header => inferInstanceAs (Decidable (headerSize ≤ bytes.length))
  | .version => inferInstanceAs (Decidable (byteAt bytes 0 &&& 0x7F = Frame.version))
  | .limit => inferInstanceAs (Decidable (announced bytes ≤ maxBodySize))
  | .body => inferInstanceAs (Decidable (announced bytes ≤ bytes.length - headerSize))
  | .direction => inferInstanceAs (Decidable (byteAt bytes 0 = sender.firstByte))
  | .opcode => inferInstanceAs (Decidable ((sender.opcodeOf? (byteAt bytes 3)).isSome = true))

/-- What is reported where a check does not hold. -/
def report (sender : Sender) (bytes : Bytes) : Check → FrameError
  | .header => .io ⟨.unexpectedEof, some "early eof"⟩
  | .version => .versionNotSupported (byteAt bytes 0 &&& 0x7F)
  | .limit => .bodyTooLarge (announced bytes)
  | .body => .connectionClosed (announced bytes - (bytes.length - headerSize)) (announced bytes)
  | .direction => sender.wrongWay
  | .opcode => .unknownOpcode ⟨sender.enumeration, (byteAt bytes 3).toNat⟩

/-- The first check that does not hold. -/
def firstFailing (sender : Sender) (bytes : Bytes) : Option Check :=
  inOrder.find? fun check => ¬ check.Passed sender bytes

theorem firstFailing_eq_none_iff {sender : Sender} {bytes : Bytes} :
    firstFailing sender bytes = none ↔ ∀ check, Passed sender bytes check := by
  simp only [firstFailing, List.find?_eq_none, decide_eq_true_eq, not_not]
  refine forall_congr' fun check => forall_prop_of_true ?_
  cases check <;> decide

theorem firstFailing_eq (sender : Sender) (bytes : Bytes) :
    firstFailing sender bytes =
      if Passed sender bytes .header then
        if Passed sender bytes .version then
          if Passed sender bytes .limit then
            if Passed sender bytes .body then
              if Passed sender bytes .direction then
                if Passed sender bytes .opcode then none else some .opcode
              else some .direction
            else some .body
          else some .limit
        else some .version
      else some .header := by
  simp only [firstFailing, inOrder, List.find?_cons, List.find?_nil]
  split_ifs <;> simp only [*, not_true_eq_false, not_false_eq_true, decide_true, decide_false]

end Check

theorem exists_header {bytes : Bytes} (h : headerSize ≤ bytes.length) :
    ∃ first flags stream number l3 l2 l1 l0 rest,
      bytes = first :: flags :: stream :: number :: l3 :: l2 :: l1 :: l0 :: rest := by
  match bytes, h with
  | first :: flags :: stream :: number :: l3 :: l2 :: l1 :: l0 :: rest, _ =>
      exact ⟨first, flags, stream, number, l3, l2, l1, l0, rest, rfl⟩

theorem split_of_short {bytes : Bytes} (h : ¬ headerSize ≤ bytes.length) :
    split bytes = .error (.io ⟨.unexpectedEof, some "early eof"⟩) := by
  unfold split
  split
  · simp only [List.length_cons, headerSize] at h
    omega
  · rfl

theorem split_of_header {bytes : Bytes} (h : headerSize ≤ bytes.length) :
    split bytes =
      if byteAt bytes 0 &&& 0x7F ≠ version then
        .error (.versionNotSupported (byteAt bytes 0 &&& 0x7F))
      else if maxBodySize < announced bytes then .error (.bodyTooLarge (announced bytes))
      else if announced bytes ≤ bytes.length - headerSize then
        .ok ((⟨byteAt bytes 0, byteAt bytes 1, (byteAt bytes 2).toInt8⟩, byteAt bytes 3,
          (bytes.drop headerSize).take (announced bytes)),
          bytes.drop (headerSize + announced bytes))
      else
        .error (.connectionClosed (announced bytes - (bytes.length - headerSize))
          (announced bytes)) := by
  obtain ⟨first, flags, stream, number, l3, l2, l1, l0, rest, rfl⟩ := exists_header h
  have hlength : (first :: flags :: stream :: number :: l3 :: l2 :: l1 :: l0 :: rest).length -
      headerSize = rest.length := rfl
  have hannounced : announced (first :: flags :: stream :: number :: l3 :: l2 :: l1 :: l0 ::
      rest) = Bytes.toNat [l3, l2, l1, l0] := rfl
  rw [hlength, hannounced, ← List.drop_drop]
  simp only [split, Bytes.splitExact?_eq]
  by_cases hbody : Bytes.toNat [l3, l2, l1, l0] ≤ rest.length
  · simp only [if_pos hbody]
    rfl
  · simp only [if_neg hbody]
    rfl

theorem split_of_body {bytes : Bytes} (hheader : headerSize ≤ bytes.length)
    (hversion : byteAt bytes 0 &&& 0x7F = version) (hlimit : announced bytes ≤ maxBodySize)
    (hbody : announced bytes ≤ bytes.length - headerSize) :
    split bytes =
      .ok ((⟨byteAt bytes 0, byteAt bytes 1, (byteAt bytes 2).toInt8⟩, byteAt bytes 3,
        (bytes.drop headerSize).take (announced bytes)),
        bytes.drop (headerSize + announced bytes)) := by
  rw [split_of_header hheader, if_neg (not_not.mpr hversion), if_neg (Nat.not_lt.mpr hlimit),
    if_pos hbody]

/-- What is said of a stream: the report of the first check that fails, or a frame, made of what
the header tells and as many bytes behind it as it announces. -/
theorem read_eq (sender : Sender) (bytes : Bytes) :
    match Check.firstFailing sender bytes with
    | some check => sender.read bytes = .error (check.report sender bytes)
    | none => ∃ opcode, sender.opcodeOf? (byteAt bytes 3) = some opcode ∧
        sender.read bytes =
          .ok ((⟨byteAt bytes 0, byteAt bytes 1, (byteAt bytes 2).toInt8⟩, opcode,
            (bytes.drop headerSize).take (announced bytes)),
            bytes.drop (headerSize + announced bytes)) := by
  rw [Check.firstFailing_eq]
  split_ifs with hheader hversion hlimit hbody hdirection hopcode <;>
    simp only [Check.Passed] at *
  -- The last two checks are made of a frame that was split off; the others, when splitting it off.
  · obtain ⟨opcode, hsome⟩ := Option.isSome_iff_exists.mp hopcode
    refine ⟨opcode, hsome, ?_⟩
    rw [Sender.read_of_split (split_of_body hheader hversion hlimit hbody) hversion,
      if_pos hdirection, hsome]
  · rw [Sender.read_of_split (split_of_body hheader hversion hlimit hbody) hversion,
      if_pos hdirection, Option.not_isSome_iff_eq_none.mp hopcode]
    rfl
  · rw [Sender.read_of_split (split_of_body hheader hversion hlimit hbody) hversion,
      if_neg hdirection]
    rfl
  · apply Sender.read_of_split_error
    rw [split_of_header hheader, if_neg (not_not.mpr hversion), if_neg (Nat.not_lt.mpr hlimit),
      if_neg hbody]
    rfl
  · apply Sender.read_of_split_error
    rw [split_of_header hheader, if_neg (not_not.mpr hversion),
      if_pos (Nat.lt_of_not_le hlimit)]
    rfl
  · apply Sender.read_of_split_error
    rw [split_of_header hheader, if_pos hversion]
    rfl
  · exact Sender.read_of_split_error (split_of_short hheader)

theorem read_eq_error_iff {sender : Sender} {bytes : Bytes} {e : FrameError} :
    sender.read bytes = .error e ↔
      ∃ check, Check.firstFailing sender bytes = some check ∧ e = check.report sender bytes := by
  have hread := read_eq sender bytes
  cases hfailing : Check.firstFailing sender bytes with
  | some check =>
      simp only [hfailing] at hread
      simp only [hread, Except.error.injEq, Option.some.injEq, exists_eq_left']
      exact eq_comm
  | none =>
      simp only [hfailing] at hread
      obtain ⟨opcode, -, hread⟩ := hread
      simp [hread]

/-- The frame of a sender: what may differ from frame to frame. -/
structure Sent (sender : Sender) where
  flags : UInt8
  stream : Int8
  opcode : sender.Opcode
  body : Bytes
  fits : body.length ≤ maxBodySize

namespace Sent

variable {sender : Sender}

/-- A frame on its way. -/
def bytes (frame : Sent sender) : Bytes :=
  assemble ⟨sender.firstByte, frame.flags, frame.stream⟩ (sender.code frame.opcode) frame.body

/-- What is read of a frame. -/
def parts (frame : Sent sender) : Params × sender.Opcode × Bytes :=
  (⟨sender.firstByte, frame.flags, frame.stream⟩, frame.opcode, frame.body)

theorem length_bytes (frame : Sent sender) :
    frame.bytes.length = headerSize + frame.body.length := by
  simp only [bytes, assemble, List.length_cons, List.length_append, Bytes.length_ofNat, headerSize]
  omega

theorem read_bytes_append (frame : Sent sender) (rest : Bytes) :
    sender.read (frame.bytes ++ rest) = .ok (frame.parts, rest) := by
  have hversion := sender.version_of_firstByte
  have hsplit := @split_assemble ⟨sender.firstByte, frame.flags, frame.stream⟩ hversion
    (sender.code frame.opcode) frame.body frame.fits rest
  rw [bytes, Sender.read_of_split hsplit hversion, if_pos rfl, Sender.opcodeOf?_code]
  rfl

theorem announced_bytes_append (frame : Sent sender) (rest : Bytes) :
    announced (frame.bytes ++ rest) = frame.body.length := by
  have hfits : frame.body.length < Nat.pow 256 4 := Nat.lt_of_le_of_lt frame.fits (by decide)
  calc announced (frame.bytes ++ rest)
      = Bytes.toNat (Bytes.ofNat 4 frame.body.length) := rfl
    _ = frame.body.length := by rw [Bytes.toNat_ofNat, Nat.mod_eq_of_lt hfits]

end Sent

theorem assemble_byteAt {bytes : Bytes} (hheader : headerSize ≤ bytes.length)
    (hbody : announced bytes ≤ bytes.length - headerSize) :
    assemble ⟨byteAt bytes 0, byteAt bytes 1, (byteAt bytes 2).toInt8⟩ (byteAt bytes 3)
        ((bytes.drop headerSize).take (announced bytes)) ++
      bytes.drop (headerSize + announced bytes) = bytes := by
  have htaken : ((bytes.drop headerSize).take (announced bytes)).length = announced bytes := by
    rw [List.length_take, List.length_drop, Nat.min_eq_left hbody]
  rw [assemble, htaken, ← List.drop_drop]
  obtain ⟨first, flags, stream, number, l3, l2, l1, l0, rest, rfl⟩ := exists_header hheader
  have hlength : Bytes.ofNat 4 (Bytes.toNat [l3, l2, l1, l0]) = [l3, l2, l1, l0] :=
    Bytes.ofNat_toNat [l3, l2, l1, l0]
  change first :: flags :: stream.toInt8.toUInt8 :: number ::
    (Bytes.ofNat 4 (Bytes.toNat [l3, l2, l1, l0]) ++
      rest.take (Bytes.toNat [l3, l2, l1, l0])) ++
    rest.drop (Bytes.toNat [l3, l2, l1, l0]) = _
  rw [hlength, UInt8.toUInt8_toInt8]
  simp only [List.cons_append, List.nil_append, List.take_append_drop]

theorem read_eq_ok_iff {sender : Sender} {bytes rest : Bytes}
    {parts : Params × sender.Opcode × Bytes} :
    sender.read bytes = .ok (parts, rest) ↔
      ∃ frame : Sent sender, frame.parts = parts ∧ frame.bytes ++ rest = bytes := by
  constructor
  · intro h
    have hread := read_eq sender bytes
    cases hfailing : Check.firstFailing sender bytes with
    | some check => simp [hfailing, h] at hread
    | none =>
        simp only [hfailing, h, Except.ok.injEq, Prod.mk.injEq] at hread
        obtain ⟨opcode, hopcode, rfl, rfl⟩ := hread
        have hpassed := Check.firstFailing_eq_none_iff.mp hfailing
        have hdirection : byteAt bytes 0 = sender.firstByte := hpassed .direction
        have hfits : ((bytes.drop headerSize).take (announced bytes)).length ≤ maxBodySize :=
          Nat.le_trans (List.length_take_le _ _) (hpassed .limit)
        refine ⟨⟨byteAt bytes 1, (byteAt bytes 2).toInt8, opcode, _, hfits⟩, ?_, ?_⟩
        · rw [Sent.parts, hdirection]
        · rw [Sent.bytes, ← hdirection, Sender.code_of_opcodeOf? hopcode]
          exact assemble_byteAt (hpassed .header) (hpassed .body)
  · rintro ⟨frame, rfl, rfl⟩
    exact frame.read_bytes_append rest

theorem exists_read_eq_ok_iff {sender : Sender} {bytes : Bytes} :
    (∃ result, sender.read bytes = .ok result) ↔
      headerSize ≤ bytes.length ∧ byteAt bytes 0 = sender.firstByte ∧
        announced bytes ≤ maxBodySize ∧ announced bytes ≤ bytes.length - headerSize ∧
        ∃ opcode, sender.code opcode = byteAt bytes 3 := by
  constructor
  · rintro ⟨⟨parts, rest⟩, h⟩
    obtain ⟨frame, -, rfl⟩ := read_eq_ok_iff.mp h
    have hannounced := frame.announced_bytes_append rest
    have hlength : (frame.bytes ++ rest).length = headerSize + frame.body.length + rest.length := by
      rw [List.length_append, frame.length_bytes]
    refine ⟨by omega, rfl, hannounced.symm ▸ frame.fits, by omega, frame.opcode, rfl⟩
  · rintro ⟨hheader, hdirection, hlimit, hbody, opcode, hopcode⟩
    have hpassed : ∀ check, Check.Passed sender bytes check := by
      rintro (_ | _ | _ | _ | _ | _)
      · exact hheader
      · exact (congrArg (· &&& 0x7F) hdirection).trans sender.version_of_firstByte
      · exact hlimit
      · exact hbody
      · exact hdirection
      · rw [Check.Passed, ← hopcode, Sender.opcodeOf?_code, Option.isSome_some]
    have hread := read_eq sender bytes
    rw [Check.firstFailing_eq_none_iff.mpr hpassed] at hread
    obtain ⟨_, _, hread⟩ := hread
    exact ⟨_, hread⟩

namespace Sender

theorem length_of_read {sender : Sender} {bytes rest : Bytes}
    {parts : Params × sender.Opcode × Bytes} (h : sender.read bytes = .ok (parts, rest)) :
    rest.length < bytes.length := by
  obtain ⟨frame, -, rfl⟩ := read_eq_ok_iff.mp h
  rw [List.length_append, frame.length_bytes, headerSize]
  omega

/-- Read frames until reading one fails: the frames, and how it failed. -/
def readAll (sender : Sender) (bytes : Bytes) :
    List (Params × sender.Opcode × Bytes) × FrameError :=
  match _h : sender.read bytes with
  | .error e => ([], e)
  | .ok (parts, rest) =>
      let more := sender.readAll rest
      (parts :: more.1, more.2)
termination_by bytes.length
decreasing_by exact length_of_read (by assumption)

theorem readAll_of_error {sender : Sender} {bytes : Bytes} {e : FrameError}
    (h : sender.read bytes = .error e) : sender.readAll bytes = ([], e) := by
  rw [readAll]
  split
  · next hread => rw [h] at hread; cases hread; rfl
  · next hread => rw [h] at hread; cases hread

theorem readAll_of_ok {sender : Sender} {bytes rest : Bytes}
    {parts : Params × sender.Opcode × Bytes} (h : sender.read bytes = .ok (parts, rest)) :
    sender.readAll bytes =
      (parts :: (sender.readAll rest).1, (sender.readAll rest).2) := by
  rw [readAll]
  split
  · next hread => rw [h] at hread; cases hread
  · next hread => rw [h] at hread; cases hread; rfl

theorem readAll_flatMap_append {sender : Sender} (frames : List (Sent sender)) {tail : Bytes}
    {e : FrameError} (htail : sender.read tail = .error e) :
    sender.readAll (frames.flatMap Sent.bytes ++ tail) = (frames.map Sent.parts, e) := by
  induction frames with
  | nil => exact readAll_of_error htail
  | cons frame frames ih =>
      have hread := frame.read_bytes_append (frames.flatMap Sent.bytes ++ tail)
      rw [List.flatMap_cons, List.append_assoc, readAll_of_ok hread, ih]
      rfl

end Sender

/-- A stream ended where more of a frame was due. -/
inductive EndOfStream : FrameError → Prop
  | header : EndOfStream (.io ⟨.unexpectedEof, some "early eof"⟩)
  | body {missing length : Nat} (hsome : 0 < missing) (hle : missing ≤ length) :
      EndOfStream (.connectionClosed missing length)

theorem byteAt_take {bytes : Bytes} {n place : Nat} (h : place < n) :
    byteAt (bytes.take n) place = byteAt bytes place := by
  rw [byteAt, byteAt, List.getD_eq_getElem?_getD, List.getD_eq_getElem?_getD,
    List.getElem?_take_of_lt h]

theorem announced_take {bytes : Bytes} {n : Nat} (h : headerSize ≤ n) :
    announced (bytes.take n) = announced bytes := by
  simp only [headerSize] at h
  rw [announced, announced, List.drop_take, List.take_take, Nat.min_eq_left (by omega)]

theorem read_of_short (sender : Sender) {bytes : Bytes} (h : ¬ headerSize ≤ bytes.length) :
    ∃ e, sender.read bytes = .error e ∧ EndOfStream e :=
  ⟨_, Sender.read_of_split_error (split_of_short h), .header⟩

theorem read_take_bytes {sender : Sender} (frame : Sent sender) {n : Nat}
    (h : n < frame.bytes.length) :
    ∃ e, sender.read (frame.bytes.take n) = .error e ∧ EndOfStream e := by
  have hlength : (frame.bytes.take n).length = n := by
    rw [List.length_take, Nat.min_eq_left (Nat.le_of_lt h)]
  by_cases hheader : headerSize ≤ n
  · have hannounced : announced (frame.bytes.take n) = frame.body.length := by
      rw [announced_take hheader]
      exact List.append_nil frame.bytes ▸ frame.announced_bytes_append []
    have hversion : byteAt (frame.bytes.take n) 0 &&& 0x7F = version := by
      rw [byteAt_take (Nat.lt_of_lt_of_le (by decide) hheader)]
      exact sender.version_of_firstByte
    have hbody : ¬ frame.body.length ≤ n - headerSize := by
      rw [frame.length_bytes] at h
      omega
    have hsplit := split_of_header (hlength.symm ▸ hheader)
    rw [if_neg (not_not.mpr hversion), hannounced, if_neg (Nat.not_lt.mpr frame.fits), hlength,
      if_neg hbody] at hsplit
    exact ⟨_, Sender.read_of_split_error hsplit, .body (by omega) (by omega)⟩
  · exact read_of_short sender (hlength.symm ▸ hheader)

theorem exists_take_flatMap {sender : Sender} (frames : List (Sent sender)) (n : Nat) :
    ∃ k tail, (frames.flatMap Sent.bytes).take n = (frames.take k).flatMap Sent.bytes ++ tail ∧
      ((frames.take k).flatMap Sent.bytes).length ≤ n ∧
      (k < frames.length → n < ((frames.take (k + 1)).flatMap Sent.bytes).length) ∧
      ∃ e, sender.read tail = .error e ∧ EndOfStream e := by
  induction frames generalizing n with
  | nil => exact ⟨0, [], List.take_nil, Nat.zero_le n, nofun, read_of_short sender (by decide)⟩
  | cons frame frames ih =>
      by_cases hwhole : frame.bytes.length ≤ n
      · obtain ⟨k, tail, htake, hle, hlt, hend⟩ := ih (n - frame.bytes.length)
        refine ⟨k + 1, tail, ?_, ?_, fun hk => ?_, hend⟩
        · rw [List.flatMap_cons, List.take_append, List.take_of_length_le hwhole, htake,
            List.take_succ_cons, List.flatMap_cons, List.append_assoc]
        · rw [List.take_succ_cons, List.flatMap_cons, List.length_append]
          omega
        · have hnext := hlt (Nat.lt_of_succ_lt_succ hk)
          rw [List.take_succ_cons, List.flatMap_cons, List.length_append]
          omega
      · have hcut : n < frame.bytes.length := Nat.lt_of_not_le hwhole
        refine ⟨0, frame.bytes.take n, ?_, Nat.zero_le n, fun _ => ?_, read_take_bytes frame hcut⟩
        · rw [List.flatMap_cons, List.take_append_of_le_length (Nat.le_of_lt hcut)]
          rfl
        · rw [List.take_succ_cons, List.take_zero, List.flatMap_cons, List.length_append]
          omega

/-- How the frames of a sender are read off a stream. -/
structure ReadsFrames (sender : Sender) : Prop where
  /-- A frame is read exactly if a header of this sender with a known kind is there, and as many
  bytes behind it as it announces, which are not too many. -/
  succeeds_iff (bytes : Bytes) : (∃ result, sender.read bytes = .ok result) ↔
    headerSize ≤ bytes.length ∧ byteAt bytes 0 = sender.firstByte ∧
      announced bytes ≤ maxBodySize ∧ announced bytes ≤ bytes.length - headerSize ∧
      ∃ opcode, sender.code opcode = byteAt bytes 3
  /-- The body has the announced length, and what follows the frame is left on the stream. -/
  takes_iff (bytes rest : Bytes) (parts : Params × sender.Opcode × Bytes) :
    sender.read bytes = .ok (parts, rest) ↔
      ∃ frame : Sent sender, frame.body.length = announced bytes ∧ frame.parts = parts ∧
        frame.bytes ++ rest = bytes
  /-- Otherwise the first check that fails is reported. -/
  fails_iff (bytes : Bytes) (e : FrameError) : sender.read bytes = .error e ↔
    ∃ check, Check.firstFailing sender bytes = some check ∧ e = check.report sender bytes
  /-- From frames cut off anywhere all that are whole are read, then the stream is at its end. -/
  reads_all (frames : List (Sent sender)) (n : Nat) : ∃ k e,
    sender.readAll ((frames.flatMap Sent.bytes).take n) =
        ((frames.take k).map Sent.parts, e) ∧
      EndOfStream e ∧ ((frames.take k).flatMap Sent.bytes).length ≤ n ∧
      (k < frames.length → n < ((frames.take (k + 1)).flatMap Sent.bytes).length)

theorem readsFrames (sender : Sender) : ReadsFrames sender where
  succeeds_iff _ := exists_read_eq_ok_iff
  takes_iff bytes rest parts := by
    rw [read_eq_ok_iff]
    refine exists_congr fun frame => (and_iff_right_of_imp ?_).symm
    rintro ⟨-, rfl⟩
    exact (frame.announced_bytes_append rest).symm
  fails_iff _ _ := read_eq_error_iff
  reads_all frames n := by
    obtain ⟨k, tail, htake, hle, hlt, e, hread, hend⟩ := exists_take_flatMap frames n
    refine ⟨k, e, ?_, hend, hle, hlt⟩
    rw [htake]
    exact Sender.readAll_flatMap_append (frames.take k) hread

end Frame

end CqlClient
