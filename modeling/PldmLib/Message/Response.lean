/-
# Responses to the update agent

Each request of the update agent has a response of its own, and the agent reads it with
the decoder of that response. The tables of the inventory are read as they are spelled; the
two responses with an optional field have it read if another field says so; the others are
read field by field. A response is read back as it was sent exactly when it is canonical:
nothing is stored in it behind what it announces, and its optional field is there when
the decoder looks for it.
-/

import PldmLib.Message.InventoryCodec
import PldmLib.Message.Overrun
import PldmLib.Message.UpdateCodec

namespace PldmLib.Message

open PldmLib.Machine PldmLib.Protocol

/-! ## Responses of fixed size -/

namespace PassComponentTableResponse

def scanner : FieldScanner PassComponentTableResponse := do
  let hdr ← Look.get.header
  let completionCode ← Look.get.u8
  let compResp ← Look.get.u8
  let compRespCode ← Look.get.u8
  pure ⟨hdr, completionCode, compResp, compRespCode⟩

theorem reads (response : PassComponentTableResponse) (after : List UInt8) :
    scanner.decode (response.toBytes ++ after) = .ok response := by
  apply Scanner.decode_of_runAt
  · simp only [toBytes, scanner, List.append_assoc, List.cons_append, List.nil_append,
      Look.runAt_header, Look.runAt_u8]
    rfl

end PassComponentTableResponse

namespace ActivationResponse

def scanner : FieldScanner ActivationResponse := do
  let hdr ← Look.get.header
  let completionCode ← Look.get.u8
  let estimatedTimeActivation ← Look.get.u16
  pure ⟨hdr, completionCode, estimatedTimeActivation⟩

theorem reads (response : ActivationResponse) (after : List UInt8) :
    scanner.decode (response.toBytes ++ after) = .ok response := by
  apply Scanner.decode_of_runAt
  · simp only [toBytes, scanner, List.append_assoc, List.cons_append, List.nil_append,
      Look.runAt_header, Look.runAt_u8, Look.runAt_u16]
    rfl

end ActivationResponse

namespace CompletionResponse

def scanner : FieldScanner CompletionResponse := do
  let hdr ← Look.get.header
  let completionCode ← Look.get.u8
  pure ⟨hdr, completionCode⟩

theorem reads (response : CompletionResponse) (after : List UInt8) :
    scanner.decode (response.toBytes ++ after) = .ok response := by
  apply Scanner.decode_of_runAt
  · simp only [toBytes, scanner, List.append_assoc, List.cons_append, List.nil_append,
      Look.runAt_header, Look.runAt_u8]
    rfl

end CompletionResponse

namespace CancelUpdateResponse

def scanner : FieldScanner CancelUpdateResponse := do
  let hdr ← Look.get.header
  let completionCode ← Look.get.u8
  let nonFunctioningComponentIndication ← Look.get.u8
  let nonFunctioningComponentBitmap ← Look.get.u64
  pure ⟨hdr, completionCode, nonFunctioningComponentIndication, nonFunctioningComponentBitmap⟩

theorem reads (response : CancelUpdateResponse) (after : List UInt8) :
    scanner.decode (response.toBytes ++ after) = .ok response := by
  apply Scanner.decode_of_runAt
  · simp only [toBytes, scanner, List.append_assoc, List.cons_append, List.nil_append,
      Look.runAt_header, Look.runAt_u8, Look.runAt_u64]
    rfl

end CancelUpdateResponse

namespace GetStatusResponse

def scanner : FieldScanner GetStatusResponse := do
  let hdr ← Look.get.header
  let completionCode ← Look.get.u8
  let currentState ← Look.get.u8
  let previousState ← Look.get.u8
  let auxState ← Look.get.u8
  let auxStateStatus ← Look.get.u8
  let progressPercent ← Look.get.u8
  let reasonCode ← Look.get.u8
  let updateOptionFlagsEnabled ← Look.get.u32
  pure ⟨hdr, completionCode, currentState, previousState, auxState, auxStateStatus,
    progressPercent, reasonCode, updateOptionFlagsEnabled⟩

theorem reads (response : GetStatusResponse) (after : List UInt8) :
    scanner.decode (response.toBytes ++ after) = .ok response := by
  apply Scanner.decode_of_runAt
  · simp only [toBytes, scanner, List.append_assoc, List.cons_append, List.nil_append,
      Look.runAt_header, Look.runAt_u8, Look.runAt_u32]
    rfl

end GetStatusResponse

/-! ## All of them -/

/-- A response of one of the handlers of the agent's requests. -/
inductive Response
  | queryDeviceIdentifiers (response : QueryDeviceIdentifiersResponse)
  | getFirmwareParameters (response : GetFirmwareParametersResponse)
  | requestUpdate (response : RequestUpdateResponse)
  | passComponentTable (response : PassComponentTableResponse)
  | updateComponent (response : UpdateComponentResponse)
  | activateFirmware (response : ActivationResponse)
  | activatePendingComponentImage (response : ActivationResponse)
  | updateSecurityRevision (response : CompletionResponse)
  | cancelUpdateComponent (response : CompletionResponse)
  | cancelUpdate (response : CancelUpdateResponse)
  | getStatus (response : GetStatusResponse)
  deriving DecidableEq

namespace Response

def encode : Response → Encoder
  | .queryDeviceIdentifiers response => response.encode
  | .getFirmwareParameters response => response.encode
  | .requestUpdate response => response.encode
  | .passComponentTable response => response.encode
  | .updateComponent response => response.encode
  | .activateFirmware response => response.encode
  | .activatePendingComponentImage response => response.encode
  | .updateSecurityRevision response => response.encode
  | .cancelUpdateComponent response => response.encode
  | .cancelUpdate response => response.encode
  | .getStatus response => response.encode

/-- The decoder of the type of a response. -/
def decodeAs (buffer : List UInt8) : Response → Outcome PldmCodecError Response
  | .queryDeviceIdentifiers _ =>
      (QueryDeviceIdentifiersResponse.decode buffer).map .queryDeviceIdentifiers
  | .getFirmwareParameters _ =>
      (GetFirmwareParametersResponse.decode buffer).map .getFirmwareParameters
  | .requestUpdate _ => (RequestUpdateResponse.scanner.decode buffer).map .requestUpdate
  | .passComponentTable _ =>
      (PassComponentTableResponse.scanner.decode buffer).map .passComponentTable
  | .updateComponent _ => (UpdateComponentResponse.scanner.decode buffer).map .updateComponent
  | .activateFirmware _ => (ActivationResponse.scanner.decode buffer).map .activateFirmware
  | .activatePendingComponentImage _ =>
      (ActivationResponse.scanner.decode buffer).map .activatePendingComponentImage
  | .updateSecurityRevision _ =>
      (CompletionResponse.scanner.decode buffer).map .updateSecurityRevision
  | .cancelUpdateComponent _ =>
      (CompletionResponse.scanner.decode buffer).map .cancelUpdateComponent
  | .cancelUpdate _ => (CancelUpdateResponse.scanner.decode buffer).map .cancelUpdate
  | .getStatus _ => (GetStatusResponse.scanner.decode buffer).map .getStatus

def toBytes : Response → List UInt8
  | .queryDeviceIdentifiers response => response.toBytes
  | .getFirmwareParameters response => response.toBytes
  | .requestUpdate response => response.toBytes
  | .passComponentTable response => response.toBytes
  | .updateComponent response => response.toBytes
  | .activateFirmware response => response.toBytes
  | .activatePendingComponentImage response => response.toBytes
  | .updateSecurityRevision response => response.toBytes
  | .cancelUpdateComponent response => response.toBytes
  | .cancelUpdate response => response.toBytes
  | .getStatus response => response.toBytes

def completionCode : Response → UInt8
  | .queryDeviceIdentifiers response => response.completionCode
  | .getFirmwareParameters response => response.completionCode
  | .requestUpdate response => response.completionCode
  | .passComponentTable response => response.completionCode
  | .updateComponent response => response.completionCode
  | .activateFirmware response => response.completionCode
  | .activatePendingComponentImage response => response.completionCode
  | .updateSecurityRevision response => response.completionCode
  | .cancelUpdateComponent response => response.completionCode
  | .cancelUpdate response => response.completionCode
  | .getStatus response => response.completionCode

/-- Nothing is stored behind what the response announces, and nothing is missing. -/
def Canonical : Response → Prop
  | .queryDeviceIdentifiers response => response.Canonical
  | .getFirmwareParameters response => response.parms.Canonical
  | .requestUpdate response => response.Canonical
  | .updateComponent response => response.Canonical
  | _ => True

/-- What the encoder needs of a response. -/
def Fits : Response → Prop
  | .queryDeviceIdentifiers response => response.Fits
  | .getFirmwareParameters response => response.parms.Fits
  | .requestUpdate response => response.Canonical
  | _ => True

theorem encode_eq {response : Response} (fits : response.Fits) :
    response.encode = writeToPrefix response.toBytes := by
  cases response with
  | queryDeviceIdentifiers response => exact QueryDeviceIdentifiersResponse.encode_eq fits
  | getFirmwareParameters response => exact GetFirmwareParametersResponse.encode_eq fits
  | requestUpdate response => exact RequestUpdateResponse.encode_eq fits
  | updateComponent response => exact UpdateComponentResponse.encode_toBytes response
  | _ => rfl

/-- The optional field of the answer to an update request is announced. -/
def Sound : Response → Prop
  | .requestUpdate response => response.Canonical
  | _ => True

/-- The encoder writes the response as a whole, or panics where there is room for it. -/
theorem encode_ends {response : Response} (sound : response.Sound) :
    response.Fits ∨ ¬ response.Fits ∧ ∃ size, Overruns response.encode size := by
  cases response with
  | queryDeviceIdentifiers response =>
      by_cases fits : response.Fits
      · exact .inl fits
      · exact .inr ⟨fits, _, QueryDeviceIdentifiersResponse.overruns fits⟩
  | getFirmwareParameters response =>
      by_cases fits : response.parms.Fits
      · exact .inl fits
      · refine .inr ⟨fits, ?_⟩
        by_cases counted : response.parms.compCount.toNat ≤ maxComponentCount
        · exact ⟨_, GetFirmwareParametersResponse.overruns counted fits⟩
        · exact ⟨_, GetFirmwareParametersResponse.overruns_of_many (not_le.mp counted)⟩
  | requestUpdate response => exact .inl sound
  | _ => exact .inl trivial

/-- Every response begins with a header and its completion code. -/
theorem toBytes_eq (response : Response) : ∃ (header : PldmMsgHeader) (body : List UInt8),
    response.toBytes = header.toBytes ++ response.completionCode :: body := by
  cases response with
  | queryDeviceIdentifiers response =>
      refine ⟨response.hdr, u32Bytes response.deviceIdentifiersLen ++
        [response.descriptorCount] ++ response.initialDescriptor.toBytes ++
          response.additional.flatMap Descriptor.toBytes, ?_⟩
      simp [toBytes, completionCode, QueryDeviceIdentifiersResponse.toBytes,
        QueryDeviceIdentifiersResponse.headBytes]
  | getFirmwareParameters response =>
      refine ⟨response.hdr, response.parms.toBytes, ?_⟩
      simp [toBytes, completionCode, GetFirmwareParametersResponse.toBytes]
  | _ => exact ⟨_, _, rfl⟩

section Decoding

variable {α : Type} {decode : List UInt8 → Outcome PldmCodecError α} {spell : α → List UInt8}
  {valid : α → Prop} {wrap : α → Response} {value : α}

/-- A decoder that returns canonical values only, and all of them. -/
theorem map_decode_iff (injective : Function.Injective wrap)
    (spells : Scanner.Spells decode spell valid)
    (reads : valid value → ∀ after, decode (spell value ++ after) = .ok value) :
    (decode (spell value)).map wrap = .ok (wrap value) ↔ valid value := by
  rw [Outcome.map_eq_ok]
  constructor
  · rintro ⟨returned, decoded, same⟩
    obtain rfl := injective same
    exact ((spells _).of_ok decoded).1
  · intro canonical
    refine ⟨value, ?_, rfl⟩
    simpa using reads canonical []

/-- A decoder that returns every value. -/
theorem map_decode (reads : ∀ after, decode (spell value ++ after) = .ok value) :
    (decode (spell value)).map wrap = .ok (wrap value) := by
  rw [Outcome.map_eq_ok]
  refine ⟨value, ?_, rfl⟩
  simpa using reads []

end Decoding

/-- A response is read back as it was sent exactly when it is canonical. -/
theorem decodeAs_toBytes_iff (response : Response) :
    response.decodeAs response.toBytes = .ok response ↔ response.Canonical := by
  cases response with
  | queryDeviceIdentifiers response =>
      simp only [decodeAs, toBytes, Canonical]
      exact map_decode_iff (fun _ _ => Response.queryDeviceIdentifiers.inj)
        QueryDeviceIdentifiersResponse.spells QueryDeviceIdentifiersResponse.reads
  | getFirmwareParameters response =>
      simp only [decodeAs, toBytes, Canonical]
      exact map_decode_iff (fun _ _ => Response.getFirmwareParameters.inj)
        GetFirmwareParametersResponse.spells GetFirmwareParametersResponse.reads
  | requestUpdate response =>
      simp only [decodeAs, toBytes, Canonical]
      exact map_decode_iff (fun _ _ => Response.requestUpdate.inj)
        RequestUpdateResponse.spells RequestUpdateResponse.reads
  | updateComponent response =>
      simp only [decodeAs, toBytes, Canonical]
      exact map_decode_iff (fun _ _ => Response.updateComponent.inj)
        UpdateComponentResponse.spells_canonical UpdateComponentResponse.reads
  | passComponentTable response =>
      exact iff_of_true (map_decode response.reads) trivial
  | activateFirmware response =>
      exact iff_of_true (map_decode response.reads) trivial
  | activatePendingComponentImage response =>
      exact iff_of_true (map_decode response.reads) trivial
  | updateSecurityRevision response =>
      exact iff_of_true (map_decode response.reads) trivial
  | cancelUpdateComponent response =>
      exact iff_of_true (map_decode response.reads) trivial
  | cancelUpdate response =>
      exact iff_of_true (map_decode response.reads) trivial
  | getStatus response =>
      exact iff_of_true (map_decode response.reads) trivial

end Response

end PldmLib.Message
