import SipeMedia.Sdp.Frame
import SipeMedia.Purple.Media

/-!
# The call record, SIP messages and the account's state

`struct _sipe_media_call`, `src/core/sipe-media.c:61–76`, and the parts of
`struct sipe_account_data` the file uses: `media_call`, at most one call per account.
Media sessions are numbered in creation order; the engine's state of each is kept here,
since the handlers read it. Everything the account sends, SIP messages and media-engine
commands, is kept in order.
-/

namespace SipeMedia.Call

open SipeMedia.Base SipeMedia.Sdp SipeMedia.Purple

/-- `SipeCallState`, `src/core/sipe-media.c:42–47`. -/
inductive CallState where
  | connecting
  | running
  | held
  | finished
  deriving DecidableEq, Repr

/-- An incoming SIP request as `sipe_media_incoming_invite` reads it: its identity, its
`Call-ID` header, the peer `parse_from` reads from its `From` header, and its body. -/
structure SipMsg where
  id : Nat
  callId : List Char
  sender : List Char
  body : List Char
  deriving DecidableEq, Repr

/-- `struct _sipe_media_call`: the media session is its number; of the dialog the file
reads the Call-ID and the peer (`dialog->with`); the pending invitation is a message id. -/
structure SipeMediaCall where
  media : Nat
  callId : List Char
  dialogWith : List Char
  remoteIp : Option (List Char)
  remotePort : UInt16
  sdpAttrs : List Attr
  invitation : Nat
  remoteCandidates : List Candidate
  remoteCodecs : List Codec
  sdpResponse : Option (List Char)
  legacyMode : Bool
  state : CallState
  deriving DecidableEq, Repr

/-- What the account emits: `send_sip_response`, `send_sip_request`, and the media-engine
calls whose results the file does not read. -/
inductive Out where
  /-- `send_sip_response (gc, msg, code, reason, body)` -/
  | response (msg : Nat) (code : Nat) (reason : List Char) (body : Option (List Char))
  /-- `send_sip_request (gc, method, to, to, headers, body, dialog, NULL)` -/
  | request (method : List Char) (target : List Char) (headers : Option (List Char))
      (body : Option (List Char))
  /-- `purple_media_add_stream` with the `rawudp` or `nice` transmitter -/
  | addStream (media : Nat) (transmitter : List Char)
  /-- `purple_media_add_remote_candidates` -/
  | addRemoteCandidates (media : Nat) (candidates : List Candidate)
  /-- `purple_media_set_remote_codecs` -/
  | setRemoteCodecs (media : Nat) (codecs : List Codec)
  deriving DecidableEq, Repr

/-- The account: `sip->media_call`, the media sessions created so far with what their
engine reports, and everything sent, oldest first. -/
structure Sys where
  mediaCall : Option SipeMediaCall
  medias : List MediaState
  sent : List Out
  deriving DecidableEq, Repr

/-- An account with no call, no media session and nothing sent. -/
def Sys.init : Sys := ⟨none, [], []⟩

/-- Modelled from the spec: the "locally determined IP" of
`sipe_utils_get_suitable_local_ip` (`sipe-utils.c`, not in the repository), an IPv4
address that `sipe_media_create_sdp` prints in dotted-quad form. -/
structure LocalIp where
  a : UInt8
  b : UInt8
  c : UInt8
  d : UInt8
  deriving DecidableEq, Repr

/-- The dotted-quad text of the local IP. -/
def LocalIp.text (ip : LocalIp) : List Char :=
  fmtU ip.a.toNat ++ '.' :: fmtU ip.b.toNat ++ '.' :: fmtU ip.c.toNat ++ '.' :: fmtU ip.d.toNat

/-- The collaborators' fixed answers: the local IP and `get_contact (sip)`. -/
structure Env where
  localIp : LocalIp
  contact : List Char

end SipeMedia.Call
