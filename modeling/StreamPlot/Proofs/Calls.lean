import StreamPlot.Proofs.Reader

/-!
# Calls in any mixture

The answers that a reader has given tell all about its count and its end: it has counted
the samples that it has answered, and it has ended exactly if one of its answers was the
end or a failure. `Accounts` says so of the answers until now. Every call keeps it, and so
does every sequence of calls, whichever of the two ways each of them asks in.
-/

namespace StreamPlot

namespace ReaderAnswer

/-- An answer as a result, in whichever way it was asked for. -/
def result : ReaderAnswer → Except Fault (Option Sample)
  | item none => .ok none
  | item (some (.ok sample)) => .ok (some sample)
  | item (some (.error fault)) => .error fault
  | record result => result

/-- The same answer, asked for in this way. -/
def asked (answer : ReaderAnswer) : ReaderCall → ReaderAnswer
  | .item => .item (Reader.itemOf answer.result)
  | .record => .record answer.result

def isEnd (answer : ReaderAnswer) : Bool :=
  match answer.result with
  | .ok none => true
  | _ => false

def isFault (answer : ReaderAnswer) : Bool :=
  match answer.result with
  | .error _ => true
  | _ => false

/-- Whether an answer is the last that can tell anything. -/
def closes (answer : ReaderAnswer) : Bool :=
  answer.isEnd || answer.isFault

theorem isFault_eq_false_of_isEnd {answer : ReaderAnswer} (h : answer.isEnd = true) :
    answer.isFault = false := by
  unfold isEnd at h
  unfold isFault
  split at h
  next hresult => rw [hresult]
  next => cases h

end ReaderAnswer

namespace Reader

variable {reader : Reader} {answers : List ReaderAnswer}

/-! ## One call -/

theorem result_call (reader : Reader) (call : ReaderCall) :
    (reader.call call).1.result = reader.next.result := by
  cases call with
  | item =>
      rw [Reader.call, item?]
      rcases reader.next.result with fault | _ | sample <;> rfl
  | record => rfl

/-- The way of asking does not change the answer. -/
theorem asked_call (reader : Reader) (call other : ReaderCall) :
    (reader.call call).1.asked other = (reader.call other).1 := by
  cases other with
  | item => rw [ReaderAnswer.asked, result_call]; rfl
  | record => rw [ReaderAnswer.asked, result_call]; rfl

theorem call_of_finished (h : reader.finished = true) (call : ReaderCall) :
    (reader.call call).2 = reader ∧ (reader.call call).1.isEnd = true := by
  rw [call_snd, ReaderAnswer.isEnd, result_call, next_of_finished h]
  exact ⟨rfl, rfl⟩

/-- A reader has ended behind a call exactly if the answer says so. -/
theorem finished_call (reader : Reader) (call : ReaderCall) :
    (reader.call call).2.finished = (reader.call call).1.closes := by
  rw [call_snd, ReaderAnswer.closes, ReaderAnswer.isEnd, ReaderAnswer.isFault, result_call]
  cases reader.outlook with
  | finished h => rw [next_of_finished h]; exact h
  | frame hlive hframe => rw [next_of_frame hlive hframe]; exact hlive
  | ended hlive hshort hfault => rw [next_of_ended hlive hshort hfault]; rfl
  | failed fault hlive hshort hfault => rw [next_of_failed hlive hshort hfault]; rfl

theorem count_call (reader : Reader) (call : ReaderCall) :
    (reader.call call).2.count =
      reader.count + ([(reader.call call).1].filterMap ReaderAnswer.sample?).length := by
  rw [call_snd, List.filterMap_cons, sample?_call]
  cases reader.outlook with
  | finished h => rw [next_of_finished h]; rfl
  | frame hlive hframe => rw [next_of_frame hlive hframe]; rfl
  | ended hlive hshort hfault => rw [next_of_ended hlive hshort hfault]; rfl
  | failed fault hlive hshort hfault => rw [next_of_failed hlive hshort hfault]; rfl

/-! ## All calls until now -/

/-- What the answers until now tell of the reader that is left. Behind an answer that
closes the sequence there is nothing but ends. -/
structure Accounts (answers : List ReaderAnswer) (reader : Reader) : Prop where
  count_eq : reader.count = (answers.filterMap ReaderAnswer.sample?).length
  finished_iff : reader.finished = true ↔ ∃ answer ∈ answers, answer.closes = true
  pairwise : answers.Pairwise fun earlier later => earlier.closes = true → later.isEnd = true

namespace Accounts

theorem start (input : Input) (echo : Echo) : Accounts [] (ofInput input echo) where
  count_eq := rfl
  finished_iff := by simp [ofInput]
  pairwise := .nil

theorem call (h : Accounts answers reader) (call : ReaderCall) :
    Accounts (answers ++ [(reader.call call).1]) (reader.call call).2 where
  count_eq := by
    rw [count_call, h.count_eq, List.filterMap_append, List.length_append]
  finished_iff := by
    rw [finished_call]
    constructor
    · intro hcloses
      exact ⟨_, List.mem_append_right _ (List.mem_singleton_self _), hcloses⟩
    · rintro ⟨answer, hanswer, hcloses⟩
      rcases List.mem_append.mp hanswer with hbefore | hlast
      · have hfinished := h.finished_iff.mpr ⟨answer, hbefore, hcloses⟩
        rw [← finished_call, (call_of_finished hfinished call).1]
        exact hfinished
      · rwa [List.mem_singleton.mp hlast] at hcloses
  pairwise := by
    refine List.pairwise_append.mpr ⟨h.pairwise, List.pairwise_singleton _ _, ?_⟩
    intro earlier hearlier later hlater hcloses
    have hfinished := h.finished_iff.mpr ⟨earlier, hearlier, hcloses⟩
    rw [List.mem_singleton.mp hlater]
    exact (call_of_finished hfinished call).2

theorem callAll (h : Accounts answers reader) (calls : List ReaderCall) :
    Accounts (answers ++ (reader.callAll calls).1) (reader.callAll calls).2 := by
  induction calls generalizing answers reader with
  | nil => simpa [Reader.callAll] using h
  | cons call calls ih =>
      have hrest := ih (h.call call)
      rwa [List.append_assoc] at hrest

/-- A failure is answered once at most. -/
theorem length_faults_le (h : Accounts answers reader) :
    (answers.filter ReaderAnswer.isFault).length ≤ 1 := by
  have hfaults := h.pairwise.filter ReaderAnswer.isFault
  have hmem : ∀ answer ∈ answers.filter ReaderAnswer.isFault, answer.isFault = true :=
    fun _ hanswer => (List.mem_filter.mp hanswer).2
  -- Of two failures the later one would have to be an end.
  match hlist : answers.filter ReaderAnswer.isFault with
  | [] => simp
  | [_] => simp
  | first :: second :: rest =>
      rw [hlist] at hfaults hmem
      have hfirst := hmem first List.mem_cons_self
      have hsecond := hmem second (List.mem_cons_of_mem _ List.mem_cons_self)
      have hend := (List.pairwise_cons.mp hfaults).1 second List.mem_cons_self
        (by rw [ReaderAnswer.closes, hfirst, Bool.or_true])
      rw [ReaderAnswer.isFault_eq_false_of_isEnd hend] at hsecond
      cases hsecond

end Accounts

/-- Calls that ask in other ways get the same answers and leave the same reader. -/
theorem callAll_asked (reader : Reader) {calls others : List ReaderCall}
    (h : others.length = calls.length) :
    reader.callAll others =
      (List.zipWith ReaderAnswer.asked (reader.callAll calls).1 others,
        (reader.callAll calls).2) := by
  induction calls generalizing reader others with
  | nil =>
      rw [List.length_nil, List.length_eq_zero_iff] at h
      subst h
      rfl
  | cons call calls ih =>
      cases others with
      | nil => cases h
      | cons other others =>
          have hnext : (reader.call other).2 = (reader.call call).2 := by
            rw [call_snd, call_snd]
          rw [callAll_cons, callAll_cons, hnext, ih _ (Nat.succ.inj h), List.zipWith_cons_cons,
            asked_call]

/-- After any calls a reader has counted the samples that it has answered, and has ended
exactly if it has answered the end or a failure. It answers one failure at most, and behind
that or behind the first end nothing but the end. A call that finds it ended leaves its
input, its echo and its count alone. Asking in the other way anywhere changes no answer and
leaves the same reader. -/
theorem calls_keep_account (input : Input) (echo : Echo) (calls : List ReaderCall) :
    let reader := ofInput input echo
    let run := reader.callAll calls
    run.2.count = (run.1.filterMap ReaderAnswer.sample?).length ∧
      (run.2.finished = true ↔ ∃ answer ∈ run.1, answer.closes = true) ∧
      (run.1.filter ReaderAnswer.isFault).length ≤ 1 ∧
      (run.1.Pairwise fun earlier later => earlier.closes = true → later.isEnd = true) ∧
      (run.2.finished = true →
        ∀ call, (run.2.call call).1.isEnd = true ∧ (run.2.call call).2 = run.2) ∧
      ∀ others, others.length = calls.length →
        reader.callAll others = (List.zipWith ReaderAnswer.asked run.1 others, run.2) := by
  intro reader run
  have haccounts : Accounts run.1 run.2 := (Accounts.start input echo).callAll calls
  refine ⟨haccounts.count_eq, haccounts.finished_iff, haccounts.length_faults_le,
    haccounts.pairwise, ?_, ?_⟩
  · intro hfinished call
    exact (call_of_finished hfinished call).symm
  · intro others hothers
    exact reader.callAll_asked hothers

end Reader

end StreamPlot
