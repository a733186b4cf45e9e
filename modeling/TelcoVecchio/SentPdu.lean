import TelcoVecchio.SmsUtils
import TelcoVecchio.SmsSubmit

/-!
The PDU of `send_sms` read as an SMS-SUBMIT. Its length octet counts the bytes
of the Rust string, while the user data behind it is counted in septets.
-/

namespace TelcoVecchio.SentPdu

open Common SmsUtils

/-- What `send_sms` accepts and builds. -/
structure Built (gsm7 : Gsm7) (sms : OutgoingSms) (pdu : String) (number : List Char)
    (octets : List UInt8) : Prop where
  short : sms.msg.utf8ByteSize ≤ 140
  encodedNumber : encodePhoneNumber sms.recipient = some number
  written : gsm7.write sms.msg = .ok octets
  built : pdu = submitPdu number (RustText.toUppercase (HexText.encode octets)) sms.msg

theorem submit_commands_built {gsm7 : Gsm7} {sms : OutgoingSms} {command pdu : String}
    (sent : submitCommands gsm7 sms = .ok (command, pdu)) :
    ∃ number octets, Built gsm7 sms pdu number octets := by
  by_cases long : 140 < sms.msg.utf8ByteSize
  · simp [submitCommands, long] at sent
  · cases encodedNumber : encodePhoneNumber sms.recipient with
    | none => simp [submitCommands, long, encodedNumber] at sent
    | some number =>
        cases written : gsm7.write sms.msg with
        | error error => simp [submitCommands, long, encodedNumber, encodeMessage, written] at sent
        | ok octets =>
            simp only [submitCommands, long, ↓reduceIte, encodedNumber, encodeMessage, written,
              Outcome.ok.injEq, Prod.mk.injEq] at sent
            exact ⟨number, octets, Nat.le_of_not_lt long, encodedNumber, written, sent.2.symm⟩

theorem submit_commands_command {gsm7 : Gsm7} {sms : OutgoingSms} {command pdu : String}
    (sent : submitCommands gsm7 sms = .ok (command, pdu)) :
    command = "AT+CMGS=" ++ toString ((pdu.utf8ByteSize - 2) / 2) ++ "\r" := by
  simp only [submitCommands] at sent
  repeat' split at sent
  all_goals cases sent
  rfl

theorem submit_pdu_layout (number : List Char) (octets : List UInt8) (msg : String) :
    (submitPdu number (RustText.toUppercase (HexText.encode octets)) msg).toList =
      "0011000B91".toList ++ (number ++
        (RustText.toUppercase (HexText.encode [0, 0, 1, UInt8.ofNat msg.utf8ByteSize]) ++
          (RustText.toUppercase (HexText.encode octets) ++ [SmsSubmit.endMarker]))) := by
  have fixed : "0000".toList ++ (hexOctet smsValidityPeriod).toList =
      RustText.toUppercase (HexText.encode [0, 0, 1]) := by decide
  have apart : RustText.toUppercase (HexText.encode [0, 0, 1, UInt8.ofNat msg.utf8ByteSize]) =
      ("0000".toList ++ (hexOctet smsValidityPeriod).toList) ++
        (hexOctet msg.utf8ByteSize).toList := by
    have counted : (hexOctet msg.utf8ByteSize).toList =
        RustText.toUppercase (HexText.encode [UInt8.ofNat msg.utf8ByteSize]) :=
      String.toList_ofList
    rw [fixed, counted]
    rfl
  rw [apart]
  unfold submitPdu
  simp only [String.toList_append, String.toList_ofList, List.append_assoc]
  rfl

def behindAddress (number : List Char) (pdu : String) : List Char :=
  pdu.toList.drop ("0011000B91".toList.length + number.length)

theorem submit_pdu_destination (number : List Char) (octets : List UInt8) (msg : String)
    (width : number.length = 12) :
    SmsSubmit.readDestination
        (submitPdu number (RustText.toUppercase (HexText.encode octets)) msg).toList =
      some (0x11, ⟨11, SmsDeliver.international, number⟩,
        behindAddress number
          (submitPdu number (RustText.toUppercase (HexText.encode octets)) msg)) := by
  have behind : behindAddress number
      (submitPdu number (RustText.toUppercase (HexText.encode octets)) msg) =
      RustText.toUppercase (HexText.encode [0, 0, 1, UInt8.ofNat msg.utf8ByteSize]) ++
        (RustText.toUppercase (HexText.encode octets) ++ [SmsSubmit.endMarker]) := by
    rw [behindAddress, submit_pdu_layout, ← List.append_assoc, ← List.length_append,
      List.drop_left]
  have measured (rest : List Char) : SmsDeliver.readOctet ("0011000B91".toList ++ rest) =
      some (0, "11000B91".toList ++ rest) := rfl
  have typed (rest : List Char) : SmsDeliver.readOctet ("11000B91".toList ++ rest) =
      some (0x11, "000B91".toList ++ rest) := rfl
  have referenced (rest : List Char) : SmsDeliver.readOctet ("000B91".toList ++ rest) =
      some (0, "0B91".toList ++ rest) := rfl
  have address (rest : List Char) : SmsDeliver.readAddress ("0B91".toList ++ (number ++ rest)) =
      some (⟨11, SmsDeliver.international, number⟩, rest) :=
    SmsDeliver.read_address_of rfl rfl width
  have noCentre (rest : List Char) : SmsDeliver.readText (2 * 0) rest = some ([], rest) :=
    SmsDeliver.read_text_append [] rest
  rw [behind, submit_pdu_layout]
  simp only [SmsSubmit.readDestination, measured, noCentre, typed, referenced, address,
    Option.bind_eq_bind, Option.bind_some]
  rfl

def UserDataWellFormed (sms : OutgoingSms) (pdu : String) : Prop :=
  ∃ number userData, encodePhoneNumber sms.recipient = some number ∧
    SmsSubmit.readUserData 0x11 (behindAddress number pdu) = some userData ∧
    SmsSubmit.Carries userData sms.msg.toList

theorem built_user_data {gsm7 : Gsm7} {sms : OutgoingSms} {pdu : String} {number : List Char}
    {octets : List UInt8} (built : Built gsm7 sms pdu number octets) :
    ∃ userData, SmsSubmit.readUserData 0x11 (behindAddress number pdu) = some userData ∧
      userData.count = sms.msg.utf8ByteSize ∧ userData.octets = octets := by
  have behind : behindAddress number pdu =
      RustText.toUppercase (HexText.encode [0, 0, 1, UInt8.ofNat sms.msg.utf8ByteSize]) ++
        (RustText.toUppercase (HexText.encode octets) ++ [SmsSubmit.endMarker]) := by
    rw [behindAddress, built.built, submit_pdu_layout, ← List.append_assoc,
      ← List.length_append, List.drop_left]
  have size : (UInt8.ofNat sms.msg.utf8ByteSize).toNat = sms.msg.utf8ByteSize := by
    have short := built.short
    rw [UInt8.toNat_ofNat']
    omega
  rw [behind, SmsSubmit.read_user_data_of]
  exact ⟨_, rfl, size, rfl⟩

theorem built_submit {gsm7 : Gsm7} {sms : OutgoingSms} {pdu : String} {number : List Char}
    {octets : List UInt8} (built : Built gsm7 sms pdu number octets)
    (width : number.length = 12) :
    ∃ userData, SmsSubmit.readUserData 0x11 (behindAddress number pdu) = some userData ∧
      SmsSubmit.readSubmit pdu.toList =
        some ⟨⟨11, SmsDeliver.international, number⟩, userData⟩ := by
  obtain ⟨userData, read, _⟩ := built_user_data built
  have destination := submit_pdu_destination number octets sms.msg width
  rw [← built.built] at destination
  exact ⟨userData, read, by simp [SmsSubmit.readSubmit, destination, read]⟩

theorem written_packed {gsm7 : Gsm7} (documented : gsm7.Documented) {text : String}
    {octets : List UInt8} (written : gsm7.write text = .ok octets)
    (alphabet : ∀ char ∈ text.toList, Gsm0338.inAlphabet char = true) :
    ∃ units, Gsm0338.encodeText text.toList = some units ∧ SeptetPacking.Packs units octets := by
  obtain ⟨units, spelled⟩ := Option.isSome_iff_exists.mp
    ((Gsm0338.encode_text_isSome text.toList).mpr alphabet)
  obtain ⟨same, packed, packs⟩ := documented.writes text units spelled
  rw [written] at packed
  cases packed
  exact ⟨units, spelled, packs⟩

/-- For every message that `send_sms` accepts, the user data is well formed if
and only if the message is of the alphabet and has as many bytes as septets. -/
theorem user_data_well_formed_iff (gsm7 : Gsm7) (documented : gsm7.Documented)
    (sms : OutgoingSms) (command pdu : String)
    (sent : submitCommands gsm7 sms = .ok (command, pdu)) :
    UserDataWellFormed sms pdu ↔
      (∀ char ∈ sms.msg.toList, Gsm0338.inAlphabet char = true) ∧
        sms.msg.utf8ByteSize = Gsm0338.septetCount sms.msg.toList := by
  obtain ⟨number, octets, built⟩ := submit_commands_built sent
  obtain ⟨userData, read, count, data⟩ := built_user_data built
  constructor
  · rintro ⟨otherNumber, other, encoded, readOther, carries⟩
    rw [built.encodedNumber] at encoded
    cases encoded
    rw [read] at readOther
    cases readOther
    obtain ⟨units, spelled, _, counted⟩ := carries.count
    have septets := (Gsm0338.encode_text_septets _ units spelled).1
    refine ⟨(Gsm0338.encode_text_isSome _).mp (by rw [spelled]; rfl), ?_⟩
    rw [← count, counted, septets]
  · rintro ⟨alphabet, same⟩
    obtain ⟨units, spelled, packs⟩ := written_packed documented built.written alphabet
    have septets := (Gsm0338.encode_text_septets _ units spelled).1
    have short := built.short
    refine ⟨number, userData, built.encodedNumber, read, ?_⟩
    apply SmsSubmit.carries_of_encoded userData _ units spelled (by rwa [data])
    · rw [count, same, septets]
    · rw [septets, ← same]
      omega

theorem closed_commands : submitCommands Gsm7.standard ⟨"+33600000001", "closed"⟩ =
    .ok ("AT+CMGS=20\r", "0011000B913306000000F10000010663F67B5E2603\x1a") := by
  decide +kernel

theorem plain_reply_well_formed :
    UserDataWellFormed ⟨"+33600000001", "closed"⟩
      "0011000B913306000000F10000010663F67B5E2603\x1a" :=
  (user_data_well_formed_iff Gsm7.standard standard_documented _ _ _ closed_commands).mpr
    ⟨List.all_eq_true.mp (by decide), by decide⟩

theorem braces_not_well_formed : ¬ ∀ gsm7 sms command pdu, Gsm7.Documented gsm7 →
    submitCommands gsm7 sms = .ok (command, pdu) → UserDataWellFormed sms pdu := by
  intro wellFormed
  have sent : submitCommands Gsm7.standard ⟨"+33600000001", "Os \x7b code: 2 \x7d"⟩ =
      .ok ("AT+CMGS=28\r", "0011000B913306000000F10000010ECF396883028DDFE4B20E24036D52\x1a") := by
    decide +kernel
  have carried := wellFormed Gsm7.standard _ _ _ standard_documented sent
  have counts := (user_data_well_formed_iff Gsm7.standard standard_documented _ _ _ sent).mp carried
  exact absurd counts.2 (by decide)

end TelcoVecchio.SentPdu
