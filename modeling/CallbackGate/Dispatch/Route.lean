import CallbackGate.Message.Envelope

/-!
# Routes

A route names a kind of message or event.  `classify` finds the route of an
envelope by its tags, which compare without regard to case.  The tag of a
subscription belongs to two routes, which the ticket of the envelope tells
apart; every other tag belongs to one.
-/

namespace CallbackGate

/-- Kinds of messages. -/
inductive MessageKind
  | text
  | image
  | voice
  | video
  | shortVideo
  | location
  | link
  | file
  deriving DecidableEq, Repr

/-- Kinds of events. -/
inductive EventType
  | subscribe
  /-- A subscription by way of a QR code, which has a ticket. -/
  | qrSubscribe
  | unsubscribe
  | scan
  | location
  | click
  | view
  | viewMiniprogram
  | scanCodePush
  | scanCodeWaitMsg
  | picSysPhoto
  | picPhotoOrAlbum
  | picWeixin
  | locationSelect
  | templateSendJobFinish
  | massSendJobFinish
  | kfCreateSession
  | kfCloseSession
  | kfSwitchSession
  | cardPassCheck
  | cardNotPassCheck
  | userGetCard
  | userDelCard
  | userConsumeCard
  | userViewCard
  | userEnterSessionFromCard
  | qualificationVerifySuccess
  | qualificationVerifyFail
  deriving DecidableEq, Repr

namespace MessageKind

/-- All kinds of messages. -/
def all : List MessageKind :=
  [.text, .image, .voice, .video, .shortVideo, .location, .link, .file]

/-- The tag of a kind. -/
def tag : MessageKind → String
  | .text => "text"
  | .image => "image"
  | .voice => "voice"
  | .video => "video"
  | .shortVideo => "shortvideo"
  | .location => "location"
  | .link => "link"
  | .file => "file"

/-- The name under which a kind is shown. -/
def name : MessageKind → String
  | .text => "Text"
  | .image => "Image"
  | .voice => "Voice"
  | .video => "Video"
  | .shortVideo => "ShortVideo"
  | .location => "Location"
  | .link => "Link"
  | .file => "File"

/-- The kind with a tag. -/
def ofTag? (tag : String) : Option MessageKind :=
  all.find? fun kind => Text.sameLetters kind.tag tag

end MessageKind

namespace EventType

/-- All kinds of events. -/
def all : List EventType :=
  [.subscribe, .qrSubscribe, .unsubscribe, .scan, .location, .click, .view,
   .viewMiniprogram, .scanCodePush, .scanCodeWaitMsg, .picSysPhoto,
   .picPhotoOrAlbum, .picWeixin, .locationSelect, .templateSendJobFinish,
   .massSendJobFinish, .kfCreateSession, .kfCloseSession, .kfSwitchSession,
   .cardPassCheck, .cardNotPassCheck, .userGetCard, .userDelCard,
   .userConsumeCard, .userViewCard, .userEnterSessionFromCard,
   .qualificationVerifySuccess, .qualificationVerifyFail]

/-- The tag of a kind. -/
def tag : EventType → String
  | .subscribe => "subscribe"
  | .qrSubscribe => "subscribe"
  | .unsubscribe => "unsubscribe"
  | .scan => "SCAN"
  | .location => "LOCATION"
  | .click => "CLICK"
  | .view => "VIEW"
  | .viewMiniprogram => "view_miniprogram"
  | .scanCodePush => "scancode_push"
  | .scanCodeWaitMsg => "scancode_waitmsg"
  | .picSysPhoto => "pic_sysphoto"
  | .picPhotoOrAlbum => "pic_photo_or_album"
  | .picWeixin => "pic_weixin"
  | .locationSelect => "location_select"
  | .templateSendJobFinish => "TEMPLATESENDJOBFINISH"
  | .massSendJobFinish => "MASSSENDJOBFINISH"
  | .kfCreateSession => "kf_create_session"
  | .kfCloseSession => "kf_close_session"
  | .kfSwitchSession => "kf_switch_session"
  | .cardPassCheck => "card_pass_check"
  | .cardNotPassCheck => "card_not_pass_check"
  | .userGetCard => "user_get_card"
  | .userDelCard => "user_del_card"
  | .userConsumeCard => "user_consume_card"
  | .userViewCard => "user_view_card"
  | .userEnterSessionFromCard => "user_enter_session_from_card"
  | .qualificationVerifySuccess => "qualification_verify_success"
  | .qualificationVerifyFail => "qualification_verify_fail"

/-- The name under which a kind is shown. -/
def name : EventType → String
  | .subscribe => "Subscribe"
  | .qrSubscribe => "QrSubscribe"
  | .unsubscribe => "Unsubscribe"
  | .scan => "Scan"
  | .location => "Location"
  | .click => "Click"
  | .view => "View"
  | .viewMiniprogram => "ViewMiniprogram"
  | .scanCodePush => "ScanCodePush"
  | .scanCodeWaitMsg => "ScanCodeWaitMsg"
  | .picSysPhoto => "PicSysPhoto"
  | .picPhotoOrAlbum => "PicPhotoOrAlbum"
  | .picWeixin => "PicWeixin"
  | .locationSelect => "LocationSelect"
  | .templateSendJobFinish => "TemplateSendJobFinish"
  | .massSendJobFinish => "MassSendJobFinish"
  | .kfCreateSession => "KfCreateSession"
  | .kfCloseSession => "KfCloseSession"
  | .kfSwitchSession => "KfSwitchSession"
  | .cardPassCheck => "CardPassCheck"
  | .cardNotPassCheck => "CardNotPassCheck"
  | .userGetCard => "UserGetCard"
  | .userDelCard => "UserDelCard"
  | .userConsumeCard => "UserConsumeCard"
  | .userViewCard => "UserViewCard"
  | .userEnterSessionFromCard => "UserEnterSessionFromCard"
  | .qualificationVerifySuccess => "QualificationVerifySuccess"
  | .qualificationVerifyFail => "QualificationVerifyFail"

/-- The tag of subscriptions, with and without a ticket. -/
def subscribeTag : String := "subscribe"

/-- The kind is a subscription. -/
def isSubscription : EventType → Bool
  | .subscribe | .qrSubscribe => true
  | _ => false

/-- The kind with a tag, where a ticket tells the subscriptions apart. -/
def ofTag? (tag : String) (hasTicket : Bool) : Option EventType :=
  if Text.sameLetters tag subscribeTag then
    some (if hasTicket then .qrSubscribe else .subscribe)
  else
    (all.filter (!·.isSubscription)).find? fun kind =>
      Text.sameLetters kind.tag tag

end EventType

/-- A kind of message or event. -/
inductive Route
  | message (kind : MessageKind)
  | event (kind : EventType)
  deriving DecidableEq, Repr

namespace Route

/-- All routes, messages before events. -/
def all : List Route :=
  MessageKind.all.map .message ++ EventType.all.map .event

/-- The type tag of a route and, for an event, its event tag. -/
def tags : Route → String × Option String
  | .message kind => (kind.tag, none)
  | .event kind => (Envelope.eventTag, some kind.tag)

/-- The route is that of an event. -/
def isEvent : Route → Bool
  | .message _ => false
  | .event _ => true

/-- The text shown for a route. -/
def shown : Route → String
  | .message kind => "Message(" ++ kind.name ++ ")"
  | .event kind => "Event(" ++ kind.name ++ ")"

end Route

/-! ## Classification -/

/-- Why an envelope has no route. -/
inductive Miss
  | unknownMsgType (tag : String)
  | missingEvent
  | unknownEvent (tag : String)
  deriving DecidableEq, Repr

/-- An envelope has a ticket that is not empty. -/
def Envelope.hasTicket (envelope : Envelope) : Bool :=
  match envelope.ticket with
  | some ticket => !ticket.isEmpty
  | none => false

/-- The route of an envelope. -/
def classify (envelope : Envelope) : Except Miss Route :=
  if !envelope.isEvent then
    match MessageKind.ofTag? envelope.msgType with
    | some kind => .ok (.message kind)
    | none => .error (.unknownMsgType envelope.msgType)
  else match envelope.event with
    | none => .error .missingEvent
    | some tag =>
      if tag.isEmpty then .error .missingEvent
      else match EventType.ofTag? tag envelope.hasTicket with
        | some kind => .ok (.event kind)
        | none => .error (.unknownEvent tag)

end CallbackGate
