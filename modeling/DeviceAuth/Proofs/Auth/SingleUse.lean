import DeviceAuth.Proofs.Auth.History

/-!
**Sessions and challenges correspond one to one.** Over any run that starts without challenges and
sessions, every session goes back to one verification, and every verification that succeeds to a
challenge of its own, which was offered to its device before.

* `Tracked`: what the events of a run say about the ledger that it leaves. The heart of it is that
  a challenge which is still unused has not been redeemed (`Tracked.unspent`).
* `Tracked.step`: an event keeps it, as long as no challenge id is offered twice.
* `sessions_correspond`: the correspondence, for records in memory and for databases.
-/

namespace DeviceAuth

open Event Service

/-! ### Events by position -/

section Positions

variable {α : Type} {view : Event → Option α}

theorem shownAt_append_singleton (events : List Event) (event : Event) (position : Nat)
    (value : α) :
    shownAt view (events ++ [event]) position = some value ↔
      shownAt view events position = some value ∨
        position = events.length ∧ view event = some value := by
  unfold shownAt
  rcases Nat.lt_trichotomy position events.length with inside | rfl | outside
  · simp [List.getElem?_append_left inside, Nat.ne_of_lt inside]
  · simp
  · have beyond : (events ++ [event])[position]? = none :=
      List.getElem?_eq_none (by simpa using Nat.succ_le_of_lt outside)
    simp [beyond, List.getElem?_eq_none (Nat.le_of_lt outside), Nat.ne_of_gt outside]

theorem lt_length_of_shownAt {events : List Event} {position : Nat} {value : α}
    (shown : shownAt view events position = some value) : position < events.length := by
  obtain ⟨event, found, _⟩ := Option.bind_eq_some_iff.mp shown
  exact (List.getElem?_eq_some_iff.mp found).1

theorem mem_filterMap_iff_shownAt {events : List Event} {value : α} :
    value ∈ events.filterMap view ↔ ∃ position, shownAt view events position = some value := by
  constructor
  · intro member
    obtain ⟨event, inside, shows⟩ := List.mem_filterMap.mp member
    obtain ⟨position, found⟩ := List.mem_iff_getElem?.mp inside
    exact ⟨position, by simp [shownAt, found, shows]⟩
  · rintro ⟨position, shown⟩
    obtain ⟨event, found, shows⟩ := Option.bind_eq_some_iff.mp shown
    exact List.mem_filterMap.mpr ⟨event, List.mem_iff_getElem?.mpr ⟨position, found⟩, shows⟩

/-- Where keys are distinct, a key has one position. -/
theorem eq_of_shownAt {events : List Event} {key : α → String}
    (distinct : ((events.filterMap view).map key).Nodup) {first second : Nat} {value other : α}
    (shown : shownAt view events first = some value)
    (shownToo : shownAt view events second = some other) (same : key value = key other) :
    first = second := by
  have apart : events.Pairwise fun event later => ∀ value, view event = some value →
      ∀ other, view later = some other → key value ≠ key other :=
    List.pairwise_filterMap.mp (List.pairwise_map.mp distinct)
  obtain ⟨event, found, shows⟩ := Option.bind_eq_some_iff.mp shown
  obtain ⟨later, foundToo, showsToo⟩ := Option.bind_eq_some_iff.mp shownToo
  obtain ⟨inside, rfl⟩ := List.getElem?_eq_some_iff.mp found
  obtain ⟨insideToo, rfl⟩ := List.getElem?_eq_some_iff.mp foundToo
  rcases Nat.lt_trichotomy first second with before | equal | behind
  · exact absurd same (List.pairwise_iff_getElem.mp apart _ _ _ _ before _ shows _ showsToo)
  · exact equal
  · exact absurd same.symm (List.pairwise_iff_getElem.mp apart _ _ _ _ behind _ showsToo _ shows)

end Positions

/-! ### What is known of a run -/

/-- **What the events of a run say about the ledger that it leaves.** -/
structure Tracked (events : List Event) (ledger : Ledger) : Prop where
  /-- Every challenge has been offered. -/
  offered : ∀ challengeId deviceId used, ledger.challenges challengeId deviceId used →
    ⟨deviceId, challengeId⟩ ∈ offers events
  /-- No session has been opened for a challenge that is unused. -/
  unspent : ∀ challengeId deviceId, ledger.challenges challengeId deviceId false →
    ∀ opening ∈ openings events, opening.challengeId ≠ challengeId
  /-- What a session has been opened for was offered before. -/
  earned : ∀ position opening, shownAt opening? events position = some opening →
    opening.session.deviceId = opening.deviceId ∧
      ∃ earlier < position,
        shownAt offer? events earlier = some ⟨opening.deviceId, opening.challengeId⟩
  /-- No two sessions have been opened for one challenge. -/
  single : ((openings events).map Opening.challengeId).Nodup
  /-- Every session has been opened. -/
  recorded : ∀ sessionId deviceId, ledger.sessions sessionId deviceId →
    ∃ opening ∈ openings events,
      opening.session.sessionId = sessionId ∧ opening.deviceId = deviceId
  filed : ledger.filed

namespace Tracked

variable {events : List Event} {event : Event} {before after : Ledger}

theorem start (blank : before.Blank) : Tracked [] before where
  offered _ _ _ held := absurd held (blank.challenges _ _ _)
  unspent _ _ held := absurd held (blank.challenges _ _ _)
  earned _ _ shown := by cases shown
  single := .nil
  recorded _ _ held := absurd held (blank.sessions _ _)
  filed := blank.filed

theorem offers_append_singleton :
    offers (events ++ [event]) = offers events ++ event.offer?.toList := by
  unfold offers
  cases shows : event.offer? <;> simp [shows]

theorem openings_append_singleton :
    openings (events ++ [event]) = openings events ++ event.opening?.toList := by
  unfold openings
  cases shows : event.opening? <;> simp [shows]

theorem offers_of_none (noOffer : event.offer? = none) :
    offers (events ++ [event]) = offers events := by
  rw [offers_append_singleton, noOffer, Option.toList_none, List.append_nil]

theorem openings_of_none (noOpening : event.opening? = none) :
    openings (events ++ [event]) = openings events := by
  rw [openings_append_singleton, noOpening, Option.toList_none, List.append_nil]

/-- A redeemed challenge has been offered. -/
theorem mem_offers (tracked : Tracked events before) {opening : Opening}
    (opened : opening ∈ openings events) :
    ⟨opening.deviceId, opening.challengeId⟩ ∈ offers events := by
  obtain ⟨position, shown⟩ := mem_filterMap_iff_shownAt.mp opened
  obtain ⟨_, earlier, _, offered⟩ := tracked.earned position opening shown
  exact mem_filterMap_iff_shownAt.mpr ⟨earlier, offered⟩

/-- What was earned stays earned, whatever comes next. -/
theorem earned_append (tracked : Tracked events before) (next : ∀ opening,
      event.opening? = some opening → opening.session.deviceId = opening.deviceId ∧
        ⟨opening.deviceId, opening.challengeId⟩ ∈ offers events)
    (position : Nat) (opening : Opening)
    (shown : shownAt opening? (events ++ [event]) position = some opening) :
    opening.session.deviceId = opening.deviceId ∧
      ∃ earlier < position, shownAt offer? (events ++ [event]) earlier =
        some ⟨opening.deviceId, opening.challengeId⟩ := by
  rcases (shownAt_append_singleton ..).mp shown with old | ⟨rfl, new⟩
  · obtain ⟨owned, earlier, sooner, offered⟩ := tracked.earned position opening old
    exact ⟨owned, earlier, sooner, (shownAt_append_singleton ..).mpr (.inl offered)⟩
  · obtain ⟨owned, member⟩ := next opening new
    obtain ⟨earlier, offered⟩ := mem_filterMap_iff_shownAt.mp member
    exact ⟨owned, earlier, lt_length_of_shownAt offered,
      (shownAt_append_singleton ..).mpr (.inl offered)⟩

/-- Upkeep leaves everything as it is known. -/
theorem upkeep (tracked : Tracked events before) (noOffer : event.offer? = none)
    (noOpening : event.opening? = none) (shrinks : before.Shrinks after) :
    Tracked (events ++ [event]) after where
  offered challengeId deviceId used held := by
    obtain ⟨earlier, before⟩ := shrinks.held held
    rw [offers_of_none noOffer]
    exact tracked.offered _ _ _ before
  unspent challengeId deviceId unused := by
    rw [openings_of_none noOpening]
    exact tracked.unspent _ _ (shrinks.unused unused)
  earned := tracked.earned_append fun opening opens => by rw [noOpening] at opens; cases opens
  single := by
    rw [openings_of_none noOpening]
    exact tracked.single
  recorded sessionId deviceId held := by
    rw [openings_of_none noOpening]
    exact tracked.recorded _ _ (shrinks.sessions _ _ held)
  filed := shrinks.filed tracked.filed

/-- A challenge with a new id has not been redeemed. -/
theorem offer (tracked : Tracked events before) {challenge : Challenge}
    (offer : event.offer? = some ⟨challenge.deviceId, challenge.challengeId⟩)
    (noOpening : event.opening? = none) (offers : before.Offers challenge after)
    (distinct : ((Event.offers (events ++ [event])).map Offer.challengeId).Nodup) :
    Tracked (events ++ [event]) after where
  offered challengeId deviceId used held := by
    rw [offers_append_singleton, offer]
    rcases offers.challenges _ _ _ held with same | ⟨rfl, rfl, _⟩
    · exact List.mem_append_left _ (tracked.offered _ _ _ same)
    · exact List.mem_append_right _ List.mem_cons_self
  unspent challengeId deviceId unused := by
    rw [openings_of_none noOpening]
    rcases offers.challenges _ _ _ unused with same | ⟨rfl, _, _⟩
    · exact tracked.unspent _ _ same
    · intro opening opened same
      -- A session for this id would go back to an earlier offer of it.
      rw [offers_append_singleton, offer, List.map_append] at distinct
      have once := (List.nodup_append.mp distinct).2.2
      exact once _ (List.mem_map_of_mem (tracked.mem_offers opened)) _ List.mem_cons_self same
  earned := tracked.earned_append fun opening opens => by rw [noOpening] at opens; cases opens
  single := by
    rw [openings_of_none noOpening]
    exact tracked.single
  recorded sessionId deviceId held := by
    rw [openings_of_none noOpening]
    exact tracked.recorded _ _ (offers.sessions _ _ held)
  filed := offers.filed tracked.filed

/-- A challenge that was unused is redeemed, and is not unused any more. -/
theorem opening (tracked : Tracked events before) {opening : Opening} {spent : Ledger}
    (noOffer : event.offer? = none) (opens : event.opening? = some opening)
    (unused : before.challenges opening.challengeId opening.deviceId false)
    (shrinks : before.Shrinks spent) (closed : spent.Closed opening.challengeId)
    (owned : opening.session.deviceId = opening.deviceId)
    (added : spent.Opens opening.session after) : Tracked (events ++ [event]) after where
  offered challengeId deviceId used held := by
    obtain ⟨earlier, before⟩ := shrinks.held (added.challenges _ _ _ held)
    rw [offers_of_none noOffer]
    exact tracked.offered _ _ _ before
  unspent challengeId deviceId unused := by
    have still := added.challenges _ _ _ unused
    rw [openings_append_singleton, opens, Option.toList_some]
    intro other member
    rcases List.mem_append.mp member with earlier | now
    · exact tracked.unspent _ _ (shrinks.unused still) other earlier
    · rw [List.mem_singleton.mp now]
      rintro rfl
      exact closed _ still
  earned := tracked.earned_append fun other shows => by
    rw [opens] at shows
    cases shows
    exact ⟨owned, tracked.offered _ _ _ unused⟩
  single := by
    rw [openings_append_singleton, opens, Option.toList_some, List.map_append, List.nodup_append]
    refine ⟨tracked.single, List.pairwise_singleton _ _, fun used earlier new now => ?_⟩
    obtain ⟨other, member, rfl⟩ := List.mem_map.mp earlier
    rw [List.mem_singleton.mp now]
    exact tracked.unspent _ _ unused other member
  recorded sessionId deviceId held := by
    rw [openings_append_singleton, opens, Option.toList_some]
    rcases added.sessions _ _ held with old | ⟨rfl, rfl⟩
    · obtain ⟨other, member, named, holder⟩ := tracked.recorded _ _ (shrinks.sessions _ _ old)
      exact ⟨other, List.mem_append_left _ member, named, holder⟩
    · exact ⟨opening, List.mem_append_right _ List.mem_cons_self, rfl, owned.symm⟩
  filed := added.filed (shrinks.filed tracked.filed)

/-- **Every event keeps what is known,** as long as no challenge id is offered twice. -/
theorem step (tracked : Tracked events before) (effect : event.Effect before after)
    (distinct : ((offers (events ++ [event])).map Offer.challengeId).Nodup) :
    Tracked (events ++ [event]) after := by
  cases effect with
  | upkeep noOffer noOpening shrinks => exact tracked.upkeep noOffer noOpening shrinks
  | offers challenge offer noOpening offers => exact tracked.offer offer noOpening offers distinct
  | opens opening spent noOffer opens unused shrinks closed owned added =>
    exact tracked.opening noOffer opens unused shrinks closed owned added

/-- **Every run is tracked.** -/
theorem run {σ : Type} [RecordStore σ] [LedgerStore σ] (service : Service) {start : State σ}
    (blank : (LedgerStore.ledger start.store).Blank) (calls : List Call)
    (distinct : ((offers (service.events calls start)).map Offer.challengeId).Nodup) :
    Tracked (service.events calls start)
      (LedgerStore.ledger (service.after calls start).store) := by
  refine events_induction
    (fun events state => ((offers events).map Offer.challengeId).Nodup →
      Tracked events (LedgerStore.ledger state.store))
    (fun events state call known distinct => ?_) (fun _ => .start blank) calls distinct
  have tracked := known (by
    rw [offers_append_singleton, List.map_append] at distinct
    exact (List.nodup_append.mp distinct).1)
  exact tracked.step (service.perform_effect call tracked.filed) distinct

end Tracked

/-! ### The correspondence -/

/-- **The sessions of a run correspond to challenges that were offered in it.** From the position of
a verification that succeeds, `origin` leads to the one at which its challenge was offered. -/
structure Corresponds (service : Service) (start : State Storage) (calls : List Call)
    (origin : Nat → Nat) : Prop where
  /-- The challenge was offered before, and to the same device. -/
  offered : ∀ position opening,
    shownAt opening? (service.events calls start) position = some opening →
      origin position < position ∧
        shownAt offer? (service.events calls start) (origin position) =
          some ⟨opening.deviceId, opening.challengeId⟩
  /-- No two verifications go back to one offer. -/
  injective : ∀ first second opening other,
    shownAt opening? (service.events calls start) first = some opening →
    shownAt opening? (service.events calls start) second = some other →
      origin first = origin second → first = second
  /-- No two verifications use one challenge, for whichever devices they are. -/
  single : ∀ first second opening other,
    shownAt opening? (service.events calls start) first = some opening →
    shownAt opening? (service.events calls start) second = some other →
      opening.challengeId = other.challengeId → first = second
  /-- Every session that is ever in the store was opened by exactly one verification, an earlier
  one, and for its own device. -/
  recorded : ∀ earlier, earlier <+: calls → ∀ sessionId deviceId,
    (LedgerStore.ledger (service.after earlier start).store).sessions sessionId deviceId →
      ∃ position opening,
        shownAt opening? (service.events calls start) position = some opening ∧
          position < earlier.length ∧ opening.session.sessionId = sessionId ∧
          opening.session.deviceId = deviceId ∧ opening.deviceId = deviceId ∧
          ∀ other another, shownAt opening? (service.events calls start) other = some another →
            another.session.sessionId = sessionId → other = position

/-- What a run shows at first, it shows for good. -/
theorem shownAt_of_begins {α : Type} {view : Event → Option α} {service : Service}
    {start : State Storage} {earlier calls : List Call} (begins : earlier <+: calls)
    {position : Nat} {value : α}
    (shown : shownAt view (service.events earlier start) position = some value) :
    shownAt view (service.events calls start) position = some value := by
  obtain ⟨later, rfl⟩ := begins
  have inside := lt_length_of_shownAt shown
  unfold shownAt at shown ⊢
  rwa [events_append, List.getElem?_append_left inside]

/-- What is distinct over a run is distinct over its beginning. -/
theorem nodup_of_begins {service : Service} {start : State Storage} {earlier calls : List Call}
    (begins : earlier <+: calls)
    (distinct : ((offers (service.events calls start)).map Offer.challengeId).Nodup) :
    ((offers (service.events earlier start)).map Offer.challengeId).Nodup := by
  obtain ⟨later, rfl⟩ := begins
  rw [offers, events_append, List.filterMap_append, List.map_append] at distinct
  exact (List.nodup_append.mp distinct).1

/-- **Sessions and challenges correspond one to one,** over every run of every service that starts
without challenges and sessions, as long as the ids drawn for them are distinct. -/
theorem sessions_correspond (service : Service) {start : State Storage}
    (blank : (LedgerStore.ledger start.store).Blank) (calls : List Call)
    (distinctChallenges :
      ((offers (service.events calls start)).map Offer.challengeId).Nodup)
    (distinctSessions :
      ((openings (service.events calls start)).map (·.session.sessionId)).Nodup) :
    ∃ origin, Corresponds service start calls origin := by
  have tracked := Tracked.run service blank calls distinctChallenges
  have leads : ∀ position, ∃ earlier, ∀ opening,
      shownAt opening? (service.events calls start) position = some opening →
        earlier < position ∧ shownAt offer? (service.events calls start) earlier =
          some ⟨opening.deviceId, opening.challengeId⟩ := by
    intro position
    rcases shown : shownAt opening? (service.events calls start) position with _ | opening
    · exact ⟨0, fun opening shows => by cases shows⟩
    · obtain ⟨_, earlier, sooner, offered⟩ := tracked.earned position opening shown
      refine ⟨earlier, ?_⟩
      rintro _ ⟨⟩
      exact ⟨sooner, offered⟩
  obtain ⟨origin, offered⟩ := Classical.skolem.mp leads
  have single : ∀ first second opening other,
      shownAt opening? (service.events calls start) first = some opening →
      shownAt opening? (service.events calls start) second = some other →
        opening.challengeId = other.challengeId → first = second :=
    fun _ _ _ _ => eq_of_shownAt tracked.single
  refine ⟨origin, offered, ?_, single, ?_⟩
  · intro first second opening other shown shownToo same
    refine single first second opening other shown shownToo ?_
    have goesBack := (offered first opening shown).2
    rw [same, (offered second other shownToo).2] at goesBack
    exact (congrArg Offer.challengeId (Option.some.inj goesBack)).symm
  · intro earlier begins sessionId deviceId held
    have trackedThen := Tracked.run service blank earlier
      (nodup_of_begins begins distinctChallenges)
    obtain ⟨opening, member, named, owned⟩ := trackedThen.recorded sessionId deviceId held
    obtain ⟨position, shownThen⟩ := mem_filterMap_iff_shownAt.mp member
    have shown := shownAt_of_begins begins shownThen
    have inside := lt_length_of_shownAt shownThen
    rw [length_events] at inside
    refine ⟨position, opening, shown, inside, named, ?_, owned, ?_⟩
    · exact (tracked.earned position opening shown).1.trans owned
    · intro other another shownToo same
      exact eq_of_shownAt distinctSessions shownToo shown (same.trans named.symm)

/-- A device redeems a challenge, and somebody submits the same proof again. -/
def Sample.replay : List Call := [
  .enroll device,
  .issueChallenge "challenge" (.ofNat 2) "device",
  .submitProof "session" "device" "challenge" [1] (values 2),
  .submitProof "replay" "device" "challenge" [1] (values 2),
  .setClock epoch,
  .removeExpired]

theorem sessions_correspond_replay :
    ((openings (Sample.service.events Sample.replay Sample.vacant)).map
        (·.session.sessionId) = ["session"]) ∧
      ∃ origin, Corresponds Sample.service Sample.vacant Sample.replay origin :=
  ⟨by decide +kernel,
    sessions_correspond Sample.service Sample.blank_vacant Sample.replay (by decide +kernel)
      (by decide +kernel)⟩

end DeviceAuth
