import BubaPaint.Feeds.ClobFeed

/-!
# Origins of books

Since when the books of the feed hold nothing but data about its present tokens: since they were
last empty under these tokens. A message that is sent carries the books of that moment, and keeps
their origin while it waits to be received.
-/

namespace BubaPaint

open List

/-- A step only adds to what was sent. -/
theorem ClobFeed.sent_step {settings : ClobFeedSettings} {feed feed' : ClobFeed}
    {action : ClobFeedAction} (hstep : feed.step settings action = some feed') :
    ∃ messages, feed'.sent = feed.sent ++ messages := by
  have hkept : ∀ {next : ClobFeed}, next.sent = feed.sent →
      ∃ messages, next.sent = feed.sent ++ messages :=
    fun hsame => ⟨[], by rw [hsame, append_nil]⟩
  have hsend : ∀ {next : ClobFeed} {message : FeedMessage}, next.sent = (feed.send message).sent →
      ∃ messages, next.sent = feed.sent ++ messages :=
    fun hsame => ⟨_, by rw [hsame, sent_send]⟩
  cases action with
  | resubscribe tokens | subscribed | text deliveries | closed | woken =>
    simp only [step] at hstep
    split at hstep <;> cases hstep
    exact hkept rfl
  | dropHandle =>
    cases hstep
    exact hkept rfl
  | dropReceiver =>
    cases hstep
    exact hkept rfl
  | receiveTokens =>
    simp only [step, receiveTokens] at hstep
    split at hstep
    · split at hstep
      · cases hstep
        exact hkept rfl
      · split at hstep <;> cases hstep
        exact hkept rfl
    · cases hstep
  | connect connectionId nowMs =>
    simp only [step] at hstep
    split at hstep <;> cases hstep
    exact hsend rfl
  | handle =>
    simp only [step] at hstep
    split at hstep
    · obtain ⟨tokens, -, hstep⟩ := Option.bind_eq_some_iff.mp hstep
      simp only at hstep
      split at hstep <;> cases hstep
      · exact hkept rfl
      · exact ⟨_, sent_send ..⟩
    · cases hstep
  | takeResubscribe =>
    simp only [step, takeResubscribe] at hstep
    split at hstep
    · split at hstep
      · cases hstep
        exact hkept rfl
      · split at hstep <;> cases hstep
        exact hkept rfl
    · cases hstep
  | fail reason nowMs =>
    simp only [step, fail] at hstep
    split at hstep <;> cases hstep <;> exact hsend rfl

/-! ## Origins -/

/-- The tokens subscribed when books were sent, and how many updates had been received when the
books were last empty under them, if they have been. -/
structure BookOrigin where
  tokens : Option Subscription
  since : Option ℕ
  deriving DecidableEq

/-- Books that are made, on each side, from the updates about that side's token received since
their origin. -/
def BookOrigin.Covers (origin : BookOrigin) (received : List ClobDelivery) (books : BookState) :
    Prop :=
  ∀ since tokens, origin.since = some since → origin.tokens = some tokens →
    since ≤ received.length ∧ BooksMadeFrom tokens (received.drop since) books

theorem BooksMadeFrom.mono {tokens : Subscription} {received received' : List ClobDelivery}
    {books : BookState} (h : BooksMadeFrom tokens received books)
    (hsublist : List.Sublist received received') : BooksMadeFrom tokens received' books :=
  fun side => (h side).mono hsublist

namespace BookOrigin

variable {origin : BookOrigin} {received : List ClobDelivery} {books : BookState}

/-- What is received later leaves books as they were sent. -/
theorem Covers.append (h : origin.Covers received books) (later : List ClobDelivery) :
    origin.Covers (received ++ later) books := by
  intro since tokens hsince htokens
  obtain ⟨hle, hmade⟩ := h since tokens hsince htokens
  refine ⟨by simp; omega, hmade.mono ?_⟩
  rw [drop_append_of_le_length hle]
  exact sublist_append_left _ _

theorem covers_empty (tokens : Option Subscription) (received : List ClobDelivery) :
    Covers ⟨tokens, some received.length⟩ received .empty := by
  intro since other hsince _
  cases hsince
  exact ⟨le_rfl, booksMadeFrom_empty _ _⟩

end BookOrigin

/-- The updates a feed has received, the origin of its books, and those of its messages. -/
structure FeedLog where
  received : List ClobDelivery
  since : Option ℕ
  origins : List BookOrigin

namespace FeedLog

/-- Nothing was received. -/
def empty : FeedLog where
  received := []
  since := none
  origins := []

/-- The log after a step. Books that are empty have their origin there; the books of other tokens
have none. -/
def record (log : FeedLog) (feed : ClobFeed) (action : ClobFeedAction) (feed' : ClobFeed) :
    FeedLog :=
  let received := log.received ++ (feed.handled action).toList
  let since :=
    if feed'.bookState = .empty then some received.length
    else if feed'.tokens = feed.tokens then log.since
    else none
  { received
    since
    origins := log.origins ++
      (feed'.sent.drop feed.sent.length).map fun _ => ⟨feed'.tokens, since⟩ }

/-- The books of a feed and of every message it has sent come from where the log says. -/
structure Traced (log : FeedLog) (feed : ClobFeed) : Prop where
  aligned : log.origins.length = feed.sent.length
  current : BookOrigin.Covers ⟨feed.tokens, log.since⟩ log.received feed.bookState
  sent : ∀ (index : ℕ) message books origin, feed.sent[index]? = some message →
    message.bookState? = some books → log.origins[index]? = some origin →
      origin.Covers log.received books

theorem traced_new : empty.Traced .new where
  aligned := rfl
  current := by
    intro since tokens hsince
    cases hsince
  sent := by
    intro index message books origin hmessage
    cases hmessage

namespace Traced

variable {settings : ClobFeedSettings} {log : FeedLog} {feed feed' : ClobFeed}
variable {action : ClobFeedAction}

theorem current_step (h : log.Traced feed) (hstep : feed.step settings action = some feed') :
    BookOrigin.Covers ⟨feed'.tokens, (log.record feed action feed').since⟩
      (log.record feed action feed').received feed'.bookState := by
  unfold record
  dsimp only
  by_cases hempty : feed'.bookState = .empty
  · rw [if_pos hempty, hempty]
    exact BookOrigin.covers_empty _ _
  rw [if_neg hempty]
  by_cases htokens : feed'.tokens = feed.tokens
  · rw [if_pos htokens, htokens]
    rcases ClobFeed.step_cases hstep with
      ⟨tokens, delivery, hhandled, hsome, -, hbooks, -⟩ | ⟨hhandled, -, hrebooked⟩
    · intro since other hsince hother
      cases hsome.symm.trans hother
      obtain ⟨hle, hmade⟩ := h.current since tokens hsince hsome
      rw [hhandled, hbooks, Option.toList_some]
      refine ⟨by simp; omega, ?_⟩
      rw [drop_append_of_le_length hle]
      exact hmade.applyClobUpdate delivery
    · have hsame : feed'.bookState = feed.bookState := by
        cases hrebooked with
        | cleared hbooks => exact absurd hbooks hempty
        | kept hbooks => exact hbooks
        | drained hbooks => exact hbooks
      rw [hhandled, hsame, Option.toList_none, append_nil]
      exact h.current
  · rw [if_neg htokens]
    intro since tokens hsince
    cases hsince

theorem books_of_new (hstep : feed.step settings action = some feed') {message : FeedMessage}
    {books : BookState} (hmessage : message ∈ feed'.sent.drop feed.sent.length)
    (hbooks : message.bookState? = some books) : books = feed'.bookState := by
  have hnew : books ∈ feed.newBooks feed' := mem_filterMap.mpr ⟨message, hmessage, hbooks⟩
  rcases ClobFeed.step_cases hstep with ⟨_, _, _, _, _, _, hsent, _⟩ | ⟨-, hquiet, -⟩
  · exact hsent books hnew
  · rw [hquiet] at hnew
    cases hnew

/-- A step of the feed leaves the messages sent with the origins of their books. -/
theorem step (h : log.Traced feed) (hstep : feed.step settings action = some feed') :
    (log.record feed action feed').Traced feed' := by
  obtain ⟨messages, hsent⟩ := ClobFeed.sent_step hstep
  have hdrop : feed'.sent.drop feed.sent.length = messages := by rw [hsent, drop_left]
  have hcurrent := h.current_step hstep
  refine ⟨?_, hcurrent, ?_⟩
  · simp [record, hsent, h.aligned]
  · intro index message books origin hmessage hbooks horigin
    rw [hsent] at hmessage
    unfold record at horigin
    rw [hdrop] at horigin
    by_cases hindex : index < feed.sent.length
    · rw [List.getElem?_append_left hindex] at hmessage
      rw [List.getElem?_append_left (h.aligned ▸ hindex)] at horigin
      exact (h.sent index message books origin hmessage hbooks horigin).append _
    · have hle := not_lt.mp hindex
      rw [List.getElem?_append_right hle] at hmessage
      rw [List.getElem?_append_right (h.aligned ▸ hle)] at horigin
      obtain ⟨_, -, rfl⟩ := mem_map.mp (mem_of_getElem? horigin)
      rw [books_of_new hstep (hdrop ▸ mem_of_getElem? hmessage) hbooks]
      exact hcurrent

end Traced

end FeedLog

end BubaPaint
