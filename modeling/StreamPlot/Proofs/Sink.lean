import StreamPlot.Sink

/-!
# What becomes of a text in a sink

`Sink.replies` lists what the writer answers to the offers that are made while a text is
written. `Sink.Wrote` is the account of one such writing: the writer has taken a prefix
of the text, all of it if no offer was refused, and an offer that was refused was the
last one. Accounts of texts written one after the other add up.
-/

namespace StreamPlot

def WriteReply.accepts : WriteReply → Bool
  | taken (_ + 1) => true
  | taken 0 => false
  | failed _ => false

/-- A writer takes `capacity` characters in all, in portions of its own choice, and
refuses everything after them. -/
def Writer.Holds (writer : Writer) (capacity : Nat) : Prop :=
  ∀ taken attempts offered, 0 < offered →
    if taken < capacity then
      ∃ count, writer.reply taken attempts offered = .taken (count + 1) ∧
        taken + min (count + 1) offered ≤ capacity
    else (writer.reply taken attempts offered).accepts = false

theorem Writer.limited_holds (capacity : Nat) (fault : Option Fault) :
    (Writer.limited capacity fault).Holds capacity := by
  intro taken attempts offered hoffered
  simp only [limited]
  split
  next hroom => exact ⟨min offered (capacity - taken) - 1, by congr 1; omega, by omega⟩
  next => cases fault <;> rfl

namespace Sink

/-- A sink after an offer of which it has taken `taken`. -/
def offered (sink : Sink) (taken : List Char) : Sink :=
  { sink with attempts := sink.attempts + 1, text := sink.text ++ taken }

@[simp] theorem toList_text_offered (sink : Sink) (taken : List Char) :
    (sink.offered taken).text.toList = sink.text.toList ++ taken := by
  simp [offered]

@[simp] theorem size_text_offered (sink : Sink) (taken : List Char) :
    (sink.offered taken).text.size = sink.text.size + taken.length := by
  rw [← Array.length_toList, toList_text_offered, List.length_append, Array.length_toList]

/-- What the writer answers to the offers that are made while a text is written. -/
def replies (sink : Sink) (text : List Char) : List WriteReply :=
  if text.isEmpty then []
  else
    match sink.writer.reply sink.text.size sink.attempts text.length with
    | .failed fault => [.failed fault]
    | .taken 0 => [.taken 0]
    | .taken (count + 1) =>
        .taken (count + 1) ::
          (sink.offered (text.take (count + 1))).replies (text.drop (count + 1))
termination_by text.length
decreasing_by
  cases text with
  | nil => simp at *
  | cons head tail => simp only [List.length_drop, List.length_cons]; omega

def repliesAll (sink : Sink) : List String → List WriteReply
  | [] => []
  | piece :: pieces =>
      sink.replies piece.toList ++
        match sink.write piece.toList with
        | (.ok (), next) => next.repliesAll pieces
        | (.error _, _) => []

/-- The account of a text that was written to `sink`: `replies` are what the writer
answered, and `next` is the sink that was left. -/
structure Wrote (sink : Sink) (text : List Char) (replies : List WriteReply)
    (result : Except Fault Unit) (next : Sink) : Prop where
  writer_eq : next.writer = sink.writer
  attempts_eq : next.attempts = sink.attempts + replies.length
  accepts_of_mem_dropLast : ∀ reply ∈ replies.dropLast, reply.accepts = true
  ok_iff : result = .ok () ↔ ∀ reply ∈ replies, reply.accepts = true
  exists_prefix : ∃ taken, taken <+: text ∧ next.text.toList = sink.text.toList ++ taken
  text_eq : result = .ok () → next.text.toList = sink.text.toList ++ text
  size_le : ∀ capacity, sink.writer.Holds capacity → sink.text.size ≤ capacity →
    next.text.size ≤ capacity
  le_size : ∀ capacity, sink.writer.Holds capacity → result ≠ .ok () →
    capacity ≤ next.text.size

namespace Wrote

variable {sink middle next : Sink} {first second : List Char}
  {replies more : List WriteReply} {result : Except Fault Unit}

theorem nil (sink : Sink) : Wrote sink [] [] (.ok ()) sink where
  writer_eq := rfl
  attempts_eq := rfl
  accepts_of_mem_dropLast := by simp
  ok_iff := by simp
  exists_prefix := ⟨[], List.prefix_rfl, by simp⟩
  text_eq := by simp
  size_le := fun _ _ h => h
  le_size := fun _ _ h => absurd rfl h

/-- A text behind one that was written to its end. -/
theorem append (hfirst : Wrote sink first replies (.ok ()) middle)
    (hsecond : Wrote middle second more result next) :
    Wrote sink (first ++ second) (replies ++ more) result next where
  writer_eq := hsecond.writer_eq.trans hfirst.writer_eq
  attempts_eq := by
    rw [hsecond.attempts_eq, hfirst.attempts_eq, List.length_append, Nat.add_assoc]
  accepts_of_mem_dropLast := by
    intro reply hreply
    have hall := hfirst.ok_iff.mp rfl
    by_cases hmore : more = []
    · rw [hmore, List.append_nil] at hreply
      exact hall reply (List.dropLast_subset _ hreply)
    · rw [List.dropLast_append_of_ne_nil hmore, List.mem_append] at hreply
      rcases hreply with hreply | hreply
      · exact hall reply hreply
      · exact hsecond.accepts_of_mem_dropLast reply hreply
  ok_iff := by
    have hall := hfirst.ok_iff.mp rfl
    rw [hsecond.ok_iff, List.forall_mem_append]
    exact ⟨fun h => ⟨hall, h⟩, fun h => h.2⟩
  exists_prefix := by
    obtain ⟨taken, hprefix, htext⟩ := hsecond.exists_prefix
    refine ⟨first ++ taken, (List.prefix_append_right_inj first).mpr hprefix, ?_⟩
    rw [htext, hfirst.text_eq rfl, List.append_assoc]
  text_eq := by
    intro hresult
    rw [hsecond.text_eq hresult, hfirst.text_eq rfl, List.append_assoc]
  size_le := by
    intro capacity hholds hsize
    apply hsecond.size_le capacity (hfirst.writer_eq ▸ hholds)
    exact hfirst.size_le capacity hholds hsize
  le_size := by
    intro capacity hholds
    exact hsecond.le_size capacity (hfirst.writer_eq ▸ hholds)

/-- A text behind one whose writing failed is not written. -/
theorem stop {fault : Fault} (hfirst : Wrote sink first replies (.error fault) next)
    (second : List Char) : Wrote sink (first ++ second) replies (.error fault) next where
  writer_eq := hfirst.writer_eq
  attempts_eq := hfirst.attempts_eq
  accepts_of_mem_dropLast := hfirst.accepts_of_mem_dropLast
  ok_iff := hfirst.ok_iff
  exists_prefix := by
    obtain ⟨taken, hprefix, htext⟩ := hfirst.exists_prefix
    exact ⟨taken, hprefix.trans (List.prefix_append first second), htext⟩
  text_eq := by simp
  size_le := hfirst.size_le
  le_size := hfirst.le_size

theorem of_taken {text : List Char} {count : Nat} (htext : text ≠ [])
    (hreply : sink.writer.reply sink.text.size sink.attempts text.length =
      .taken (count + 1)) :
    Wrote sink (text.take (count + 1)) [.taken (count + 1)] (.ok ())
      (sink.offered (text.take (count + 1))) where
  writer_eq := rfl
  attempts_eq := rfl
  accepts_of_mem_dropLast := by simp
  ok_iff := by simp [WriteReply.accepts]
  exists_prefix := ⟨text.take (count + 1), List.prefix_rfl, toList_text_offered sink _⟩
  text_eq := fun _ => toList_text_offered sink _
  size_le := by
    intro capacity hholds hsize
    have hoffer := hholds sink.text.size sink.attempts text.length
      (List.length_pos_iff.mpr htext)
    rw [hreply] at hoffer
    split at hoffer
    next =>
      obtain ⟨portion, hportion, hfits⟩ := hoffer
      obtain rfl : count = portion := by simpa using hportion
      rwa [size_text_offered, List.length_take]
    next => simp [WriteReply.accepts] at hoffer
  le_size := fun _ _ h => absurd rfl h

theorem of_refused {text : List Char} {reply : WriteReply} {fault : Fault} (htext : text ≠ [])
    (hreply : sink.writer.reply sink.text.size sink.attempts text.length = reply)
    (hrefused : reply.accepts = false) :
    Wrote sink text [reply] (.error fault) (sink.offered []) where
  writer_eq := rfl
  attempts_eq := rfl
  accepts_of_mem_dropLast := by simp
  ok_iff := by simp [hrefused]
  exists_prefix := ⟨[], List.nil_prefix, toList_text_offered sink []⟩
  text_eq := by simp
  size_le := by
    intro capacity _ hsize
    rwa [size_text_offered, List.length_nil, Nat.add_zero]
  le_size := by
    intro capacity hholds _
    have hoffer := hholds sink.text.size sink.attempts text.length
      (List.length_pos_iff.mpr htext)
    rw [hreply] at hoffer
    split at hoffer
    next =>
      obtain ⟨portion, hportion, _⟩ := hoffer
      rw [hportion] at hrefused
      simp [WriteReply.accepts] at hrefused
    next hfull =>
      rw [size_text_offered]
      omega

end Wrote

theorem offered_nil (sink : Sink) :
    sink.offered [] = { sink with attempts := sink.attempts + 1 } := by
  simp [offered]

theorem wrote_write (sink : Sink) (text : List Char) :
    Wrote sink text (sink.replies text) (sink.write text).1 (sink.write text).2 := by
  fun_induction Sink.write sink text with
  | case1 sink text hempty =>
      obtain rfl := List.isEmpty_iff.mp hempty
      rw [replies, if_pos hempty]
      exact Wrote.nil sink
  | case2 sink text hnonempty asked fault hreply =>
      rw [replies, if_neg hnonempty, hreply, show asked = sink.offered [] from
        sink.offered_nil.symm]
      exact Wrote.of_refused (by simpa using hnonempty) hreply rfl
  | case3 sink text hnonempty asked hreply =>
      rw [replies, if_neg hnonempty, hreply, show asked = sink.offered [] from
        sink.offered_nil.symm]
      exact Wrote.of_refused (by simpa using hnonempty) hreply rfl
  | case4 sink text hnonempty asked count hreply ih =>
      have hoffer := Wrote.of_taken (by simpa using hnonempty) hreply
      have hwhole := hoffer.append ih
      rw [List.take_append_drop] at hwhole
      rw [replies, if_neg hnonempty, hreply]
      exact hwhole

theorem writeAll_append (sink : Sink) (first second : List String) :
    sink.writeAll (first ++ second) =
      match sink.writeAll first with
      | (.ok (), next) => next.writeAll second
      | (.error fault, next) => (.error fault, next) := by
  induction first generalizing sink with
  | nil => rfl
  | cons piece pieces ih =>
      rw [List.cons_append, writeAll, writeAll]
      rcases sink.write piece.toList with ⟨fault | ⟨⟩, next⟩
      · rfl
      · exact ih next

theorem wrote_writeAll (sink : Sink) (pieces : List String) :
    Wrote sink (pieces.flatMap String.toList) (sink.repliesAll pieces)
      (sink.writeAll pieces).1 (sink.writeAll pieces).2 := by
  induction pieces generalizing sink with
  | nil => exact Wrote.nil sink
  | cons piece pieces ih =>
      have hpiece := sink.wrote_write piece.toList
      unfold writeAll repliesAll
      cases hwrite : sink.write piece.toList with
      | mk result next =>
          rw [hwrite] at hpiece
          rw [List.flatMap_cons]
          cases result with
          | ok => exact hpiece.append (ih next)
          | error fault =>
            rw [List.append_nil]
            exact hpiece.stop _

end Sink

end StreamPlot
