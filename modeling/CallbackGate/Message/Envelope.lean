import CallbackGate.Text.Binary64
import CallbackGate.Text.Letters

/-!
# Envelopes

An envelope is the message inside a delivery: who sent what to whom.  One wide
record holds the fields of all kinds of messages and events; which of them are
present depends on the kind.
-/

namespace CallbackGate

open Text (Binary64)

/-- What a menu button that scans a code found. -/
structure ScanCodeInfo where
  scanType : String := ""
  scanResult : String := ""
  deriving DecidableEq, Repr

/-- The pictures that a menu button sent, by their MD5 sums. -/
structure SendPicsInfo where
  count : UInt32 := 0
  md5Sums : List String := []
  deriving DecidableEq, Repr

/-- The place that a menu button picked. -/
structure SendLocationInfo where
  locationX : Option Binary64 := none
  locationY : Option Binary64 := none
  scale : Option Binary64 := none
  label : Option String := none
  poiname : Option String := none
  deriving DecidableEq, Repr

/-- A message or an event notification. -/
structure Envelope where
  /-- The recipient: the account that the message is for. -/
  toUserName : String := ""
  /-- The sender. -/
  fromUserName : String := ""
  createTime : Int64 := 0
  /-- The type tag. -/
  msgType : String := ""
  /-- The event tag, which only an event needs. -/
  event : Option String := none
  msgId : Option Int64 := none
  content : Option String := none
  picUrl : Option String := none
  mediaId : Option String := none
  format : Option String := none
  recognition : Option String := none
  thumbMediaId : Option String := none
  locationX : Option Binary64 := none
  locationY : Option Binary64 := none
  scale : Option Binary64 := none
  label : Option String := none
  title : Option String := none
  description : Option String := none
  url : Option String := none
  fileKey : Option String := none
  fileMd5 : Option String := none
  fileTotalLen : Option UInt64 := none
  eventKey : Option String := none
  ticket : Option String := none
  latitude : Option Binary64 := none
  longitude : Option Binary64 := none
  precision : Option Binary64 := none
  menuId : Option String := none
  scanCodeInfo : Option ScanCodeInfo := none
  sendPicsInfo : Option SendPicsInfo := none
  sendLocationInfo : Option SendLocationInfo := none
  /-- The job of a template or mass message; its element differs from that of
  `msgId` in the case of one letter. -/
  jobId : Option Int64 := none
  status : Option String := none
  totalCount : Option UInt64 := none
  filterCount : Option UInt64 := none
  sentCount : Option UInt64 := none
  errorCount : Option UInt64 := none
  kfAccount : Option String := none
  fromKfAccount : Option String := none
  toKfAccount : Option String := none
  cardId : Option String := none
  refuseReason : Option String := none
  userCardCode : Option String := none
  isGiveByFriend : Option UInt8 := none
  friendUserName : Option String := none
  outerId : Option Int64 := none
  oldUserCardCode : Option String := none
  consumeSource : Option String := none
  locationName : Option String := none
  staffOpenId : Option String := none
  failReason : Option String := none
  expiredTime : Option Int64 := none
  deriving DecidableEq, Repr

namespace Envelope

instance : Inhabited Envelope := ⟨{}⟩

/-- The type tag of events. -/
def eventTag : String := "event"

/-- The envelope holds an event. -/
def isEvent (envelope : Envelope) : Bool :=
  Text.sameLetters envelope.msgType eventTag

end Envelope

end CallbackGate
