import Mathlib.Algebra.Order.Group.Int
import Mathlib.Data.List.Basic
import Mathlib.Data.List.TakeWhile

/-! Sliding windows over a log of times, latest first. A limiter that keeps every time that has not
left the window, and lets one more through only below its limit, lets no window exceed the limit.
-/

namespace HelsterApi.Clock

open List

variable {width now : ℤ} {limit : ℕ} {log kept : List ℤ}

/-- The times of the window that ends with `now`. -/
def recent (width now : ℤ) (log : List ℤ) : List ℤ := log.filter (now - width < ·)

/-- No half-open window has more than `limit` times. -/
def Bounded (limit : ℕ) (width : ℤ) (log : List ℤ) : Prop :=
  ∀ start, (log.filter fun time => start ≤ time ∧ time < start + width).length ≤ limit

/-- `kept` are times of the log, oldest first, and all of those that have not left the window. -/
structure Keeps (width now : ℤ) (log kept : List ℤ) : Prop where
  ordered : log.Pairwise (· ≥ ·)
  past : ∀ time ∈ log, time ≤ now
  left : ∃ old, log = kept.reverse ++ old ∧ ∀ time ∈ old, time ≤ now - width

/-- A time added to a log with room in the window that it ends leaves room in every window: the
others of its window are in the one that it ends.
-/
theorem Bounded.cons (bounded : Bounded limit width log)
    (room : (recent width now log).length < limit)
    : Bounded limit width (now :: log) := by
  intro start
  by_cases inside : start ≤ now ∧ now < start + width
  · rw [filter_cons_of_pos (by simpa using inside), length_cons]
    refine lt_of_le_of_lt (List.Sublist.length_le ?_) room
    refine monotone_filter_right log fun time from_ => ?_
    simp only [decide_eq_true_eq] at from_ ⊢
    omega
  · rw [filter_cons_of_neg (by simpa using inside)]
    exact bounded start

theorem Keeps.nil : Keeps width now [] [] where
  ordered := .nil
  past := by simp
  left := ⟨[], rfl, by simp⟩

theorem Keeps.later {now'} (keeps : Keeps width now log kept) (later : now ≤ now')
    : Keeps width now' log kept where
  ordered := keeps.ordered
  past time member := (keeps.past time member).trans later
  left := by
    obtain ⟨old, same, gone⟩ := keeps.left
    exact ⟨old, same, fun time member => (gone time member).trans (by omega)⟩

/-- Times that have left the window need not be kept. -/
theorem Keeps.drop (away) (keeps : Keeps width now log (away ++ kept))
    (gone : ∀ time ∈ away, time ≤ now - width)
    : Keeps width now log kept where
  ordered := keeps.ordered
  past := keeps.past
  left := by
    obtain ⟨old, same, goneBefore⟩ := keeps.left
    refine ⟨away.reverse ++ old, by rw [same, reverse_append, append_assoc], ?_⟩
    intro time member
    rcases mem_append.mp member with dropped | before
    · exact gone time (mem_reverse.mp dropped)
    · exact goneBefore time before

section

variable (keeps : Keeps width now log kept)

include keeps

theorem Keeps.push : Keeps width now (now :: log) (kept ++ [now]) where
  ordered := pairwise_cons.mpr ⟨keeps.past, keeps.ordered⟩
  past := by
    intro time member
    rcases mem_cons.mp member with rfl | before
    · exact le_rfl
    · exact keeps.past time before
  left := by
    obtain ⟨old, same, gone⟩ := keeps.left
    exact ⟨old, by simp [same], gone⟩

theorem Keeps.kept_ordered : kept.Pairwise (· ≤ ·) := by
  obtain ⟨old, same, _⟩ := keeps.left
  have ordered := keeps.ordered
  rw [same, pairwise_append] at ordered
  exact pairwise_reverse.mp ordered.1

/-- The window holds what is kept and has not left it. -/
theorem Keeps.recent_eq : recent width now log = recent width now kept.reverse := by
  obtain ⟨old, same, gone⟩ := keeps.left
  have none_left : recent width now old = [] :=
    filter_eq_nil_iff.mpr fun time member => by simpa using gone time member
  rw [same, recent, filter_append]
  exact (congrArg _ none_left).trans (append_nil _)

theorem Keeps.recent_length_le : (recent width now log).length ≤ kept.length := by
  rw [keeps.recent_eq]
  exact (length_filter_le _ _).trans_eq length_reverse

end

/-- If the oldest kept time is in the window, all of them are. -/
theorem Keeps.recent_length_eq {oldest rest}
    (keeps : Keeps width now log (oldest :: rest)) (inside : now - width < oldest)
    : (recent width now log).length = rest.length + 1 := by
  have ordered := pairwise_cons.mp keeps.kept_ordered
  rw [keeps.recent_eq, recent, filter_eq_self.mpr, length_reverse, length_cons]
  intro time member
  rcases mem_cons.mp (mem_reverse.mp member) with rfl | later
  · simpa using inside
  · simpa using inside.trans_le (ordered.1 time later)

/-- Times dropped from the front until one is in the window leave exactly the window. -/
theorem Keeps.prune (keeps : Keeps width now log kept)
    : Keeps width now log (kept.dropWhile (· ≤ now - width))
      ∧ (recent width now log).length = (kept.dropWhile (· ≤ now - width)).length := by
  have pruned : Keeps width now log (kept.dropWhile (· ≤ now - width)) := by
    rw [← kept.takeWhile_append_dropWhile (p := (· ≤ now - width))] at keeps
    exact keeps.drop _ fun time member => by simpa using mem_takeWhile_imp member
  refine ⟨pruned, ?_⟩
  cases left : kept.dropWhile (· ≤ now - width) with rw [left] at pruned
  | nil => exact Nat.le_zero.mp pruned.recent_length_le
  | cons oldest rest =>
    have inside := head_dropWhile_not (· ≤ now - width) (l := kept) (by simp [left])
    simp only [left, head_cons, decide_eq_false_iff_not, not_le] at inside
    exact pruned.recent_length_eq inside

/-- A queue that keeps the window of its log, within the limit. -/
structure Slides (limit : ℕ) (width now : ℤ) (log kept : List ℤ) : Prop where
  keeps : Keeps width now log kept
  length : kept.length ≤ limit
  bounded : Bounded limit width log

/-- A full queue loses its oldest time to a new one. -/
def slide (limit : ℕ) (now : ℤ) (kept : List ℤ) : List ℤ :=
  (if kept.length < limit then kept else kept.tail) ++ [now]

namespace Slides

theorem nil : Slides limit width now [] [] := ⟨.nil, Nat.zero_le _, fun _ => Nat.zero_le _⟩

variable (slides : Slides limit width now log kept)

include slides

theorem later {now'} (later : now ≤ now') : Slides limit width now' log kept :=
  ⟨slides.keeps.later later, slides.length, slides.bounded⟩

/-- A queue whose last time has left the window may be emptied. -/
theorem clear (gone : ∀ last ∈ kept.getLast?, last ≤ now - width)
    : Slides limit width now log [] := by
  have keeps := slides.keeps
  rw [← kept.append_nil] at keeps
  refine ⟨keeps.drop _ fun time member => ?_, Nat.zero_le _, slides.bounded⟩
  obtain rfl | ⟨before, last, rfl⟩ := kept.eq_nil_or_concat'
  · cases member
  · have ordered := (pairwise_append.mp slides.keeps.kept_ordered).2.2
    have left := gone last (by simp)
    rcases mem_append.mp member with earlier | at_
    · exact (ordered time earlier last (mem_singleton_self last)).trans left
    · exact mem_singleton.mp at_ ▸ left

/-- The window has room exactly if the queue has, or its oldest time has left the window. -/
theorem room_iff (positive : 0 < limit)
    : (recent width now log).length < limit
      ↔ kept.length < limit ∨ width ≤ now - kept.headD 0 := by
  have fewer := slides.keeps.recent_length_le
  have full := slides.length
  cases kept with
  | nil => exact iff_of_true (fewer.trans_lt positive) (.inl positive)
  | cons oldest rest =>
    rw [headD_cons]
    rw [length_cons] at fewer full ⊢
    by_cases gone : width ≤ now - oldest
    · have slid := slides.keeps.drop [oldest] (by simpa using by omega)
      have := slid.recent_length_le
      exact iff_of_true (by omega) (.inr gone)
    · rw [slides.keeps.recent_length_eq (by omega)]
      exact (or_iff_left gone).symm

theorem slide (room : (recent width now log).length < limit)
    : Slides limit width now (now :: log) (slide limit now kept) := by
  have keeps := slides.keeps
  have full := slides.length
  refine ⟨?_, ?_, slides.bounded.cons room⟩ <;> unfold Clock.slide
  · split_ifs with fits
    · exact keeps.push
    · cases kept with
      | nil => exact absurd (Nat.zero_le _ |>.trans_lt room) fits
      | cons oldest rest =>
        have left := (slides.room_iff (Nat.zero_lt_of_lt room)).mp room |>.resolve_left fits
        rw [headD_cons] at left
        exact (keeps.drop [oldest] (by simpa using by omega)).push
  · rw [length_append, length_singleton]
    split_ifs with fits
    · exact fits
    · rw [length_tail]
      omega

end Slides

end HelsterApi.Clock
