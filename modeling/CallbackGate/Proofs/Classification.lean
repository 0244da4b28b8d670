import CallbackGate.Proofs.Deliveries

/-!
# Routes by their tags

An envelope has a route exactly if its tags are those of the route, and an envelope
without a route misses one for one of three reasons.  Tags compare without regard to
the case of ASCII letters, and one tag belongs to two routes, which the ticket of the
envelope tells apart.

There are three groups.

* Tags.  No two kinds that are looked up share a tag (`tags_distinct`), so that the
  first kind that is found is the only one (`find?_eq_some_iff_of_distinct`).
* Routes.  `Route.Fits` says which envelopes belong to a route, and `Classified` what
  classification comes to.  `classify_eq_iff` joins it to the classifier, and everything
  after it is from its five cases.
* Letters.  `Envelope.SameTags` relates envelopes whose tags differ in the case of
  letters only, and `classify_complete` is the assembly.
-/

namespace CallbackGate

/-! ## Tags -/

theorem SameWord.symm {left right : String} (h : SameWord left right) : SameWord right left :=
  Eq.symm h

theorem SameWord.trans {left middle right : String} (h : SameWord left middle)
    (h' : SameWord middle right) : SameWord left right :=
  Eq.trans h h'

/-- Only the empty word agrees with the empty word. -/
theorem sameWord_empty_iff {word : String} : SameWord word "" ↔ word = "" := by
  rw [SameWord, Text.folded, show Text.folded "" = [] from rfl, List.map_eq_nil_iff,
    String.toList_eq_nil_iff]

/-- Where no two tags agree, the first entry with a tag is the only one. -/
theorem find?_eq_some_iff_of_distinct {α : Type} {tagOf : α → String} {entries : List α}
    (hdistinct : entries.Pairwise fun a b => Text.sameLetters (tagOf a) (tagOf b) = false)
    {tag : String} {entry : α} :
    entries.find? (fun a => Text.sameLetters (tagOf a) tag) = some entry ↔
      entry ∈ entries ∧ SameWord tag (tagOf entry) := by
  induction entries with
  | nil => simp
  | cons first rest ih =>
    obtain ⟨hfirst, hrest⟩ := List.pairwise_cons.mp hdistinct
    rw [List.mem_cons]
    by_cases hfound : Text.sameLetters (tagOf first) tag = true
    · rw [List.find?_cons_of_pos (by exact hfound), Option.some.injEq]
      constructor
      · rintro rfl
        exact ⟨Or.inl rfl, (sameLetters_iff_sameWord.mp hfound).symm⟩
      · intro h
        obtain ⟨rfl | hmem, htag⟩ := h
        · rfl
        · -- A later entry with the tag would share it with the first one.
          have hshared := (sameLetters_iff_sameWord.mp hfound).trans htag
          rw [← sameLetters_iff_sameWord, hfirst entry hmem] at hshared
          cases hshared
    · rw [List.find?_cons_of_neg (by exact hfound), ih hrest]
      refine and_congr_left fun htag => ⟨Or.inr, fun hmem => hmem.resolve_left ?_⟩
      rintro rfl
      exact hfound (sameLetters_iff_sameWord.mpr htag.symm)

namespace MessageKind

theorem mem_all (kind : MessageKind) : kind ∈ all := by
  cases kind <;> decide

theorem tags_distinct : all.Pairwise fun a b => Text.sameLetters a.tag b.tag = false := by
  decide +kernel

/-- No message has the tag of events. -/
theorem tag_ne_eventTag (kind : MessageKind) : ¬SameWord Envelope.eventTag kind.tag := by
  rw [← sameLetters_iff_sameWord]
  cases kind <;> decide +kernel

/-- The kind with a tag is found. -/
theorem ofTag?_eq_some_iff {tag : String} {kind : MessageKind} :
    ofTag? tag = some kind ↔ SameWord tag kind.tag := by
  rw [ofTag?, find?_eq_some_iff_of_distinct tags_distinct]
  exact and_iff_right kind.mem_all

theorem ofTag?_eq_none_iff {tag : String} :
    ofTag? tag = none ↔ ∀ kind : MessageKind, ¬SameWord tag kind.tag := by
  simp only [Option.eq_none_iff_forall_ne_some, ne_eq, ofTag?_eq_some_iff]

end MessageKind

namespace EventType

theorem mem_all (kind : EventType) : kind ∈ all := by
  cases kind <;> decide

/-- The tags of all kinds but the subscriptions are distinct. -/
theorem tags_distinct : (all.filter (!·.isSubscription)).Pairwise fun a b =>
    Text.sameLetters a.tag b.tag = false := by
  decide +kernel

/-- The subscriptions are the kinds with their tag. -/
theorem sameWord_subscribeTag_iff (kind : EventType) :
    SameWord subscribeTag kind.tag ↔ kind.isSubscription = true := by
  rw [← sameLetters_iff_sameWord]
  cases kind <;> decide +kernel

/-- No event has an empty tag. -/
theorem tag_ne_empty (kind : EventType) : ¬SameWord "" kind.tag := by
  rw [← sameLetters_iff_sameWord]
  cases kind <;> decide +kernel

/-- Whether there is a ticket suits a kind, if it is a subscription. -/
def SuitsTicket (kind : EventType) (ticketed : Prop) : Prop :=
  (kind = qrSubscribe → ticketed) ∧ (kind = subscribe → ¬ticketed)

theorem suitsTicket_of_not_isSubscription {kind : EventType}
    (h : kind.isSubscription = false) (ticketed : Prop) : kind.SuitsTicket ticketed := by
  constructor
  · rintro rfl
    cases h
  · rintro rfl
    cases h

/-- Some kind with the tag suits the ticket. -/
theorem exists_suitsTicket (kind : EventType) (ticketed : Prop) :
    ∃ other : EventType, SameWord kind.tag other.tag ∧ other.SuitsTicket ticketed := by
  cases hsubscription : kind.isSubscription with
  | false => exact ⟨kind, rfl, suitsTicket_of_not_isSubscription hsubscription ticketed⟩
  | true =>
    have htag := ((sameWord_subscribeTag_iff kind).mpr hsubscription).symm
    by_cases hticketed : ticketed
    · exact ⟨qrSubscribe, htag, fun _ => hticketed, nofun⟩
    · exact ⟨subscribe, htag, nofun, fun _ => hticketed⟩

/-- The kind with a tag is found, the ticket telling the subscriptions apart. -/
theorem ofTag?_eq_some_iff {tag : String} {hasTicket : Bool} {kind : EventType} :
    ofTag? tag hasTicket = some kind ↔
      SameWord tag kind.tag ∧ kind.SuitsTicket (hasTicket = true) := by
  unfold ofTag?
  by_cases hsubscribe : Text.sameLetters tag subscribeTag = true
  · rw [if_pos hsubscribe, Option.some.injEq]
    rw [sameLetters_iff_sameWord] at hsubscribe
    have htag : SameWord tag kind.tag ↔ kind.isSubscription = true :=
      ⟨fun h => (sameWord_subscribeTag_iff kind).mp (hsubscribe.symm.trans h),
        fun h => hsubscribe.trans ((sameWord_subscribeTag_iff kind).mpr h)⟩
    rw [htag]
    cases hasTicket <;> cases kind <;> simp [isSubscription, SuitsTicket]
  · rw [if_neg hsubscribe, find?_eq_some_iff_of_distinct tags_distinct, List.mem_filter,
      and_iff_right kind.mem_all, Bool.not_eq_true', and_comm]
    rw [sameLetters_iff_sameWord] at hsubscribe
    refine and_congr_right fun htag => ?_
    have hother : kind.isSubscription = false := by
      rw [← Bool.not_eq_true, ← sameWord_subscribeTag_iff]
      exact fun h => hsubscribe (htag.trans h.symm)
    exact iff_of_true hother (suitsTicket_of_not_isSubscription hother _)

theorem ofTag?_eq_none_iff {tag : String} {hasTicket : Bool} :
    ofTag? tag hasTicket = none ↔ ∀ kind : EventType, ¬SameWord tag kind.tag := by
  simp only [Option.eq_none_iff_forall_ne_some, ne_eq, ofTag?_eq_some_iff, not_and]
  constructor
  · intro h kind htag
    obtain ⟨other, hother, hsuits⟩ := kind.exists_suitsTicket (hasTicket = true)
    exact h other (htag.trans hother) hsuits
  · intro h kind htag
    exact absurd htag (h kind)

end EventType

/-! ## Routes -/

/-- An envelope has a ticket that is not empty. -/
def Envelope.Ticketed (envelope : Envelope) : Prop :=
  ∃ ticket, envelope.ticket = some ticket ∧ ticket ≠ ""

theorem Envelope.hasTicket_iff (envelope : Envelope) :
    envelope.hasTicket = true ↔ envelope.Ticketed := by
  unfold Envelope.hasTicket Envelope.Ticketed
  cases envelope.ticket with
  | none => simp
  | some ticket => simp

/-- An envelope belongs to a route: it has the tags of the route, and for the route of
a subscription it has a ticket or has none. -/
structure Route.Fits (route : Route) (envelope : Envelope) : Prop where
  msgType : SameWord envelope.msgType route.tags.1
  event : ∀ tag, route.tags.2 = some tag →
    ∃ found, envelope.event = some found ∧ SameWord found tag
  ticketed : route = .event .qrSubscribe → envelope.Ticketed
  ticketless : route = .event .subscribe → ¬envelope.Ticketed

theorem Route.fits_message_iff {kind : MessageKind} {envelope : Envelope} :
    (Route.message kind).Fits envelope ↔ SameWord envelope.msgType kind.tag :=
  ⟨fun h => h.msgType, fun h => ⟨h, nofun, nofun, nofun⟩⟩

theorem Route.fits_event_iff {kind : EventType} {envelope : Envelope} :
    (Route.event kind).Fits envelope ↔
      SameWord envelope.msgType Envelope.eventTag ∧ ∃ tag, envelope.event = some tag ∧
        SameWord tag kind.tag ∧ kind.SuitsTicket envelope.Ticketed := by
  constructor
  · intro h
    obtain ⟨hmsgType, hevent, hticketed, hticketless⟩ := h
    obtain ⟨tag, htag, hsame⟩ := hevent _ rfl
    refine ⟨hmsgType, tag, htag, hsame, ?_, ?_⟩
    · rintro rfl
      exact hticketed rfl
    · rintro rfl
      exact hticketless rfl
  · intro h
    obtain ⟨hmsgType, tag, htag, hsame, hticketed, hticketless⟩ := h
    refine ⟨hmsgType, ?_, fun h => hticketed (Route.event.inj h),
      fun h => hticketless (Route.event.inj h)⟩
    intro wanted hwanted
    cases hwanted
    exact ⟨tag, htag, hsame⟩

/-- What the classification of an envelope comes to. -/
inductive Classified (envelope : Envelope) : Except Miss Route → Prop
  /-- The type tag is that of a message. -/
  | message {kind : MessageKind} (htype : SameWord envelope.msgType kind.tag) :
    Classified envelope (.ok (.message kind))
  /-- The type tag is neither that of a message nor that of events. -/
  | unknownMsgType (hevent : ¬SameWord envelope.msgType Envelope.eventTag)
    (htype : ∀ kind : MessageKind, ¬SameWord envelope.msgType kind.tag) :
    Classified envelope (.error (.unknownMsgType envelope.msgType))
  /-- The event of an envelope is not told. -/
  | missingEvent (hevent : SameWord envelope.msgType Envelope.eventTag)
    (hmissing : envelope.event = none ∨ envelope.event = some "") :
    Classified envelope (.error .missingEvent)
  /-- The event tag is that of an event. -/
  | event {tag : String} {kind : EventType}
    (hevent : SameWord envelope.msgType Envelope.eventTag) (htag : envelope.event = some tag)
    (hkind : SameWord tag kind.tag ∧ kind.SuitsTicket envelope.Ticketed) :
    Classified envelope (.ok (.event kind))
  /-- The event tag is that of no event. -/
  | unknownEvent {tag : String} (hevent : SameWord envelope.msgType Envelope.eventTag)
    (htag : envelope.event = some tag) (hne : tag ≠ "")
    (hkind : ∀ kind : EventType, ¬SameWord tag kind.tag) :
    Classified envelope (.error (.unknownEvent tag))

section Classify

variable {envelope : Envelope}

theorem classify_of_not_event (h : ¬SameWord envelope.msgType Envelope.eventTag) :
    classify envelope =
      match MessageKind.ofTag? envelope.msgType with
      | some kind => .ok (.message kind)
      | none => .error (.unknownMsgType envelope.msgType) := by
  have hevent : (!envelope.isEvent) = true := by
    rw [Bool.not_eq_true', ← Bool.not_eq_true]
    exact fun h' => h (sameLetters_iff_sameWord.mp h')
  rw [classify]
  exact if_pos hevent

theorem classify_of_event (h : SameWord envelope.msgType Envelope.eventTag) {tag : String}
    (htag : envelope.event = some tag) (hne : tag ≠ "") :
    classify envelope =
      match EventType.ofTag? tag envelope.hasTicket with
      | some kind => .ok (.event kind)
      | none => .error (.unknownEvent tag) := by
  have hevent : envelope.isEvent = true := sameLetters_iff_sameWord.mpr h
  rw [classify, hevent, if_neg (by decide), htag]
  exact if_neg (by rwa [String.isEmpty_iff])

theorem classify_of_missing (h : SameWord envelope.msgType Envelope.eventTag)
    (hmissing : envelope.event = none ∨ envelope.event = some "") :
    classify envelope = .error .missingEvent := by
  have hevent : envelope.isEvent = true := sameLetters_iff_sameWord.mpr h
  rw [classify, hevent, if_neg (by decide)]
  rcases hmissing with hnone | hempty
  · rw [hnone]
  · rw [hempty]
    rfl

/-- Classification comes to one of five outcomes. -/
theorem classified_classify (envelope : Envelope) : Classified envelope (classify envelope) := by
  by_cases hevent : SameWord envelope.msgType Envelope.eventTag
  · by_cases hmissing : envelope.event = none ∨ envelope.event = some ""
    · rw [classify_of_missing hevent hmissing]
      exact .missingEvent hevent hmissing
    · obtain ⟨hnone, hempty⟩ := not_or.mp hmissing
      obtain ⟨tag, htag⟩ := Option.ne_none_iff_exists'.mp hnone
      have hne : tag ≠ "" := fun h => hempty (h ▸ htag)
      rw [classify_of_event hevent htag hne]
      cases hkind : EventType.ofTag? tag envelope.hasTicket with
      | some kind =>
        rw [EventType.ofTag?_eq_some_iff, envelope.hasTicket_iff] at hkind
        exact .event hevent htag hkind
      | none => exact .unknownEvent hevent htag hne (EventType.ofTag?_eq_none_iff.mp hkind)
  · rw [classify_of_not_event hevent]
    cases hkind : MessageKind.ofTag? envelope.msgType with
    | some kind => exact .message (MessageKind.ofTag?_eq_some_iff.mp hkind)
    | none => exact .unknownMsgType hevent (MessageKind.ofTag?_eq_none_iff.mp hkind)

/-- The outcome is the only one whose conditions hold. -/
theorem classify_eq_of_classified {outcome : Except Miss Route}
    (h : Classified envelope outcome) : classify envelope = outcome := by
  cases h with
  | message htype =>
    rw [classify_of_not_event fun hevent => MessageKind.tag_ne_eventTag _ (hevent.symm.trans htype),
      MessageKind.ofTag?_eq_some_iff.mpr htype]
  | unknownMsgType hevent htype =>
    rw [classify_of_not_event hevent, MessageKind.ofTag?_eq_none_iff.mpr htype]
  | missingEvent hevent hmissing => exact classify_of_missing hevent hmissing
  | @event tag kind hevent htag hkind =>
    have hne : tag ≠ "" := fun h => kind.tag_ne_empty (h ▸ hkind.1)
    rw [← envelope.hasTicket_iff] at hkind
    rw [classify_of_event hevent htag hne, EventType.ofTag?_eq_some_iff.mpr hkind]
  | unknownEvent hevent htag hne hkind =>
    rw [classify_of_event hevent htag hne, EventType.ofTag?_eq_none_iff.mpr hkind]

theorem classify_eq_iff {outcome : Except Miss Route} :
    classify envelope = outcome ↔ Classified envelope outcome :=
  ⟨fun h => h ▸ classified_classify envelope, classify_eq_of_classified⟩

/-- An envelope has the routes that it belongs to. -/
theorem classify_eq_ok_iff {route : Route} :
    classify envelope = .ok route ↔ route.Fits envelope := by
  rw [classify_eq_iff]
  cases route with
  | message kind =>
    rw [Route.fits_message_iff]
    exact ⟨fun | .message htype => htype, .message⟩
  | event kind =>
    rw [Route.fits_event_iff]
    exact ⟨fun | .event hevent htag hkind => ⟨hevent, _, htag, hkind⟩,
      fun ⟨hevent, _, htag, hkind⟩ => .event hevent htag hkind⟩

end Classify

/-- An envelope belongs to one route at most. -/
theorem Route.Fits.unique {route other : Route} {envelope : Envelope} (h : route.Fits envelope)
    (hother : other.Fits envelope) : other = route :=
  Except.ok.inj ((classify_eq_ok_iff.mpr hother).symm.trans (classify_eq_ok_iff.mpr h))

/-! ## Letters -/

/-- The tags of two envelopes differ in the case of ASCII letters at most, and their
tickets are the same. -/
structure Envelope.SameTags (envelope other : Envelope) : Prop where
  msgType : SameWord envelope.msgType other.msgType
  event : envelope.event.map Text.folded = other.event.map Text.folded
  ticket : envelope.ticket = other.ticket

/-- Two misses are of one kind, and the tags that they tell differ in the case of ASCII
letters at most. -/
inductive Miss.SameKind : Miss → Miss → Prop
  | unknownMsgType {tag tag' : String} (h : SameWord tag tag') :
    SameKind (.unknownMsgType tag) (.unknownMsgType tag')
  | missingEvent : SameKind .missingEvent .missingEvent
  | unknownEvent {tag tag' : String} (h : SameWord tag tag') :
    SameKind (.unknownEvent tag) (.unknownEvent tag')

/-- Two outcomes of classification are the same route or misses of one kind. -/
inductive SameOutcome : Except Miss Route → Except Miss Route → Prop
  | route (route : Route) : SameOutcome (.ok route) (.ok route)
  | miss {miss miss' : Miss} (h : miss.SameKind miss') : SameOutcome (.error miss) (.error miss')

namespace Envelope.SameTags

variable {envelope other : Envelope} (h : envelope.SameTags other)
include h

theorem ticketed_iff : envelope.Ticketed ↔ other.Ticketed := by
  rw [Ticketed, Ticketed, h.ticket]

theorem event_of_none (hnone : envelope.event = none) : other.event = none := by
  have hevent := h.event
  rw [hnone, Option.map_none] at hevent
  exact Option.map_eq_none_iff.mp hevent.symm

theorem event_of_some {tag : String} (htag : envelope.event = some tag) :
    ∃ tag', other.event = some tag' ∧ SameWord tag tag' := by
  have hevent := h.event
  rw [htag, Option.map_some] at hevent
  obtain ⟨tag', htag', hsame⟩ := Option.map_eq_some_iff.mp hevent.symm
  exact ⟨tag', htag', hsame.symm⟩

/-- Envelopes with the same tags have the same route, or misses of one kind. -/
theorem sameOutcome : SameOutcome (classify envelope) (classify other) := by
  have htype {word : String} : SameWord other.msgType word ↔ SameWord envelope.msgType word :=
    ⟨h.msgType.trans, h.msgType.symm.trans⟩
  have houtcome := classified_classify envelope
  generalize classify envelope = outcome at houtcome
  cases houtcome with
  | message hkind =>
    rw [classify_eq_of_classified (.message (htype.mpr hkind))]
    exact .route _
  | unknownMsgType hevent hkind =>
    rw [classify_eq_of_classified (.unknownMsgType (mt htype.mp hevent)
      fun kind => mt htype.mp (hkind kind))]
    exact .miss (.unknownMsgType h.msgType)
  | missingEvent hevent hmissing =>
    rw [classify_of_missing (htype.mpr hevent) ?_]
    · exact .miss .missingEvent
    · rcases hmissing with hnone | hempty
      · exact Or.inl (h.event_of_none hnone)
      · obtain ⟨tag', htag', hsame⟩ := h.event_of_some hempty
        rw [sameWord_empty_iff.mp hsame.symm] at htag'
        exact Or.inr htag'
  | event hevent htag hkind =>
    obtain ⟨tag', htag', hsame⟩ := h.event_of_some htag
    obtain ⟨hword, hsuits⟩ := hkind
    rw [h.ticketed_iff] at hsuits
    rw [classify_eq_of_classified
      (.event (htype.mpr hevent) htag' ⟨hsame.symm.trans hword, hsuits⟩)]
    exact .route _
  | unknownEvent hevent htag hne hkind =>
    obtain ⟨tag', htag', hsame⟩ := h.event_of_some htag
    have hne' : tag' ≠ "" := by
      rintro rfl
      exact hne (sameWord_empty_iff.mp hsame)
    rw [classify_eq_of_classified (.unknownEvent (htype.mpr hevent) htag' hne'
      fun kind hword => hkind kind (hsame.trans hword))]
    exact .miss (.unknownEvent hsame)

end Envelope.SameTags

/-- An envelope that belongs to a route. -/
def Route.sample (route : Route) : Envelope :=
  { msgType := route.tags.1
    event := route.tags.2
    ticket := if route = .event .qrSubscribe then some "ticket" else none }

theorem Route.fits_sample (route : Route) : route.Fits route.sample where
  msgType := rfl
  event tag htag := ⟨tag, htag, rfl⟩
  ticketed hroute := ⟨"ticket", if_pos hroute, by decide⟩
  ticketless hroute := by
    intro h
    obtain ⟨ticket, hticket, -⟩ := h
    rw [hroute] at hticket
    cases hticket

theorem Route.mem_all (route : Route) : route ∈ all := by
  cases route with
  | message kind => exact List.mem_append_left _ (List.mem_map_of_mem kind.mem_all)
  | event kind => exact List.mem_append_right _ (List.mem_map_of_mem kind.mem_all)

/-- Classification finds the route of an envelope if it has one, and tells what is wrong
with its tags if not.  No envelope belongs to two routes, every route is that of some
envelope, and the case of letters makes no difference. -/
theorem classify_complete (envelope : Envelope) :
    (∀ route, classify envelope = .ok route ↔ route.Fits envelope) ∧
    (∀ route other : Route, route.Fits envelope → other.Fits envelope → other = route) ∧
    (∀ tag, classify envelope = .error (.unknownMsgType tag) ↔
      tag = envelope.msgType ∧ ¬SameWord envelope.msgType Envelope.eventTag ∧
        ∀ kind : MessageKind, ¬SameWord envelope.msgType kind.tag) ∧
    (classify envelope = .error .missingEvent ↔
      SameWord envelope.msgType Envelope.eventTag ∧
        (envelope.event = none ∨ envelope.event = some "")) ∧
    (∀ tag, classify envelope = .error (.unknownEvent tag) ↔
      SameWord envelope.msgType Envelope.eventTag ∧ envelope.event = some tag ∧ tag ≠ "" ∧
        ∀ kind : EventType, ¬SameWord tag kind.tag) ∧
    (∀ other, envelope.SameTags other → SameOutcome (classify envelope) (classify other)) ∧
    ∀ route : Route, route ∈ Route.all ∧ ∃ sample, classify sample = .ok route := by
  refine ⟨fun route => classify_eq_ok_iff, fun route other h hother => h.unique hother,
    ?_, ?_, ?_, fun other h => h.sameOutcome,
    fun route => ⟨route.mem_all, route.sample, classify_eq_ok_iff.mpr route.fits_sample⟩⟩
  · intro tag
    rw [classify_eq_iff]
    constructor
    · intro h
      rcases h with _ | ⟨hevent, htype⟩
      exact ⟨rfl, hevent, htype⟩
    · intro h
      obtain ⟨rfl, hevent, htype⟩ := h
      exact .unknownMsgType hevent htype
  · rw [classify_eq_iff]
    exact ⟨fun | .missingEvent hevent hmissing => ⟨hevent, hmissing⟩,
      fun ⟨hevent, hmissing⟩ => .missingEvent hevent hmissing⟩
  · intro tag
    rw [classify_eq_iff]
    exact ⟨fun | .unknownEvent hevent htag hne hkind => ⟨hevent, htag, hne, hkind⟩,
      fun ⟨hevent, htag, hne, hkind⟩ => .unknownEvent hevent htag hne hkind⟩

end CallbackGate
