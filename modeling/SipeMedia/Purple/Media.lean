import SipeMedia.Base.CText

/-!
# The libpurple media objects `sipe-media.c` reads and builds

`PurpleMediaCodec`, `PurpleMediaCandidate` and the per-session state of the media engine
(`libpurple/media`), an external collaborator. Only the fields `sipe-media.c` reads or
writes are kept. A media session's local codecs and candidates and its two completion
flags are whatever the engine reports; nothing here constrains them.
-/

namespace SipeMedia.Purple

/-- `PurpleMediaSessionType`, as far as `sipe-media.c` passes it. -/
inductive MediaType where
  | audio
  | video
  deriving DecidableEq, Repr

/-- `PurpleMediaComponentType`. -/
inductive ComponentType where
  | none
  | rtp
  | rtcp
  deriving DecidableEq, Repr

/-- `PurpleMediaNetworkProtocol`. -/
inductive NetworkProtocol where
  | udp
  | tcp
  deriving DecidableEq, Repr

/-- `PurpleMediaCandidateType`. -/
inductive CandidateType where
  | host
  | srflx
  | prflx
  | relay
  | multicast
  deriving DecidableEq, Repr

/-- A `PurpleMediaCodec`: its `guint` id and clock rate, encoding name (a C string, so
possibly NULL), media type and optional `fmtp` parameters. -/
structure Codec where
  id : UInt32
  encodingName : Option (List Char)
  mediaType : MediaType
  clockRate : UInt32
  optionalParams : List (List Char × List Char)
  deriving DecidableEq, Repr

/-- `purple_media_codec_new (int id, name, type, guint clock_rate)`: the `int` id is stored
in a `guint` property, and no optional parameters are set. -/
def purpleMediaCodecNew (id : Int) (name : Option (List Char)) (type : MediaType)
    (clockRate : Int) :
    Codec :=
  ⟨Base.toGuint32 id, name, type, Base.toGuint32 clockRate, []⟩

/-- A `PurpleMediaCandidate`; its strings are C strings, so possibly NULL. -/
structure Candidate where
  foundation : Option (List Char)
  componentId : ComponentType
  candidateType : CandidateType
  protocol : NetworkProtocol
  ip : Option (List Char)
  port : UInt16
  priority : UInt32
  username : Option (List Char)
  password : Option (List Char)
  deriving DecidableEq, Repr

/-- `purple_media_candidate_new`: priority 0 and no ICE credentials. -/
def purpleMediaCandidateNew (foundation : Option (List Char)) (component : ComponentType)
    (type : CandidateType) (proto : NetworkProtocol) (ip : Option (List Char))
    (port : UInt16) : Candidate :=
  ⟨foundation, component, type, proto, ip, port, 0, none, none⟩

/-- `PurpleMediaInfoType`, the kind of a `stream-info` signal. -/
inductive InfoType where
  | hangup
  | accept
  | reject
  | mute
  | unmute
  | pause
  | unpause
  | hold
  | unhold
  deriving DecidableEq, Repr

/-- What the media engine reports for one `PurpleMedia` session: `purple_media_get_codecs`,
`purple_media_get_local_candidates`, `purple_media_candidates_prepared` and
`purple_media_accepted`. -/
structure MediaState where
  localCodecs : List Codec
  localCandidates : List Candidate
  candidatesPrepared : Bool
  accepted : Bool
  deriving DecidableEq, Repr

end SipeMedia.Purple
