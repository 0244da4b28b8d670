import CallbackGate.Dispatch.Route

/-!
# Payloads

A payload is what an envelope says, in the shape of its route.  A text that is
absent reads as empty and a number that is absent as zero, unless the shape
has a place for its absence.
-/

namespace CallbackGate

open Text (Binary64)

/-- What an event says. -/
inductive EventPayload
  | subscribe (eventKey : Option String)
  /-- The scene is the event key without its leading `qrscene_`. -/
  | qrSubscribe (scene ticket : String)
  | unsubscribe
  | scan (scene ticket : String)
  | location (latitude longitude precision : Binary64)
  | click (key : String)
  /-- The target is an address or the path of a page. -/
  | view (target : String) (menuId : Option String)
  | scanCode (key scanType scanResult : String)
  | pictures (key : String) (count : UInt32) (md5Sums : List String)
  | locationSelect (key : String) (latitude longitude scale : Binary64)
      (label poiname : String)
  | templateSendJobFinish (jobId : Int64) (status : String)
  | massSendJobFinish (jobId : Int64) (status : String)
      (totalCount filterCount sentCount errorCount : UInt64)
  | kfSession (kfAccount : String)
  | kfSwitchSession (fromKfAccount toKfAccount : String)
  /-- The reason is given for a card that did not pass. -/
  | cardAudit (cardId : String) (refuseReason : Option String)
  | userGetCard (cardId userCardCode : String) (givenByFriend : Bool)
      (friendUserName : String) (outerId : Int64) (oldUserCardCode : String)
  | userCard (cardId userCardCode : String)
  | userConsumeCard
      (cardId userCardCode consumeSource locationName staffOpenId : String)
  /-- The reason is given for a qualification that failed. -/
  | qualification (failReason : Option String) (expiredTime : Int64)
  deriving DecidableEq, Repr

/-- What a message or an event says. -/
inductive Payload
  | text (msgId : Int64) (content : String)
  | image (msgId : Int64) (picUrl mediaId : String)
  | voice (msgId : Int64) (mediaId format : String)
      (recognition : Option String)
  | video (msgId : Int64) (mediaId thumbMediaId : String)
  | location (msgId : Int64) (latitude longitude scale : Binary64)
      (label : String)
  | link (msgId : Int64) (title description url : String)
  | file (msgId : Int64) (title description fileKey fileMd5 : String)
      (fileTotalLen : UInt64)
  | event (payload : EventPayload)
  deriving DecidableEq, Repr

/-- What stands before the scene in the event key of a subscription by way of a
QR code. -/
def sceneMark : String := "qrscene_"

/-- The scene that an event key names: the key without its mark, or the whole
key if it has none. -/
def sceneOf (key : String) : String :=
  if sceneMark.toList.isPrefixOf key.toList then
    String.ofList (key.toList.drop sceneMark.length)
  else key

/-- What an event envelope says, in the shape of its kind. -/
def EventPayload.ofEnvelope (kind : EventType) (e : Envelope) :
    EventPayload :=
  let key := e.eventKey.getD ""
  match kind with
  | .subscribe => .subscribe (e.eventKey.filter (!·.isEmpty))
  | .qrSubscribe => .qrSubscribe (sceneOf key) (e.ticket.getD "")
  | .unsubscribe => .unsubscribe
  | .scan => .scan key (e.ticket.getD "")
  | .location =>
    .location (e.latitude.getD .zero) (e.longitude.getD .zero)
      (e.precision.getD .zero)
  | .click => .click key
  | .view | .viewMiniprogram => .view key e.menuId
  | .scanCodePush | .scanCodeWaitMsg =>
    let info := e.scanCodeInfo.getD {}
    .scanCode key info.scanType info.scanResult
  | .picSysPhoto | .picPhotoOrAlbum | .picWeixin =>
    let info := e.sendPicsInfo.getD {}
    .pictures key info.count info.md5Sums
  | .locationSelect =>
    let info := e.sendLocationInfo.getD {}
    .locationSelect key (info.locationX.getD .zero)
      (info.locationY.getD .zero) (info.scale.getD .zero)
      (info.label.getD "") (info.poiname.getD "")
  | .templateSendJobFinish =>
    .templateSendJobFinish (e.jobId.getD 0) (e.status.getD "")
  | .massSendJobFinish =>
    .massSendJobFinish (e.jobId.getD 0) (e.status.getD "")
      (e.totalCount.getD 0) (e.filterCount.getD 0) (e.sentCount.getD 0)
      (e.errorCount.getD 0)
  | .kfCreateSession | .kfCloseSession => .kfSession (e.kfAccount.getD "")
  | .kfSwitchSession =>
    .kfSwitchSession (e.fromKfAccount.getD "") (e.toKfAccount.getD "")
  | .cardPassCheck => .cardAudit (e.cardId.getD "") none
  | .cardNotPassCheck =>
    .cardAudit (e.cardId.getD "") (some (e.refuseReason.getD ""))
  | .userGetCard =>
    .userGetCard (e.cardId.getD "") (e.userCardCode.getD "")
      (e.isGiveByFriend == some 1) (e.friendUserName.getD "")
      (e.outerId.getD 0) (e.oldUserCardCode.getD "")
  | .userDelCard | .userViewCard | .userEnterSessionFromCard =>
    .userCard (e.cardId.getD "") (e.userCardCode.getD "")
  | .userConsumeCard =>
    .userConsumeCard (e.cardId.getD "") (e.userCardCode.getD "")
      (e.consumeSource.getD "") (e.locationName.getD "")
      (e.staffOpenId.getD "")
  | .qualificationVerifySuccess =>
    .qualification none (e.expiredTime.getD 0)
  | .qualificationVerifyFail =>
    .qualification (some (e.failReason.getD "")) (e.expiredTime.getD 0)

namespace Payload

/-- What an envelope says, in the shape of a route. -/
def ofRoute (route : Route) (e : Envelope) : Payload :=
  let msgId := e.msgId.getD 0
  match route with
  | .message .text => .text msgId (e.content.getD "")
  | .message .image => .image msgId (e.picUrl.getD "") (e.mediaId.getD "")
  | .message .voice =>
    .voice msgId (e.mediaId.getD "") (e.format.getD "") e.recognition
  | .message .video | .message .shortVideo =>
    .video msgId (e.mediaId.getD "") (e.thumbMediaId.getD "")
  | .message .location =>
    .location msgId (e.locationX.getD .zero) (e.locationY.getD .zero)
      (e.scale.getD .zero) (e.label.getD "")
  | .message .link =>
    .link msgId (e.title.getD "") (e.description.getD "") (e.url.getD "")
  | .message .file =>
    .file msgId (e.title.getD "") (e.description.getD "")
      (e.fileKey.getD "") (e.fileMd5.getD "") (e.fileTotalLen.getD 0)
  | .event kind => .event (.ofEnvelope kind e)

/-- The payload of an event, if it is one. -/
def event? : Payload → Option EventPayload
  | .event payload => some payload
  | _ => none

end Payload

end CallbackGate
