import Blockflow.Proofs.Provider.Health
import Mathlib.Data.List.Rotate

/-!
# Fallbacks take turns

Behind the preferred model stand its fallbacks, in a ring.  A pool keeps one number, the place in
the ring where the next order starts, and skips the models that rest.  Seen from outside there is
no ring and no place: the fallbacks that may be tried stand in a queue, and with every order the
first of them goes to its end.

* `PoolHealth.fallbacks`, `PoolHealth.turn` — the ring, and what of it may be tried from some place
  on; **`turn_of_first`** — the next turn begins behind the first model of this one.
* `nodup_attemptOrder`, `lt_of_mem_attemptOrder` — an order names no model twice, and no other.
* `PoolHealth.asks`, `PoolHealth.Steady` — the orders that are given while this and that happens to
  a pool, and that what may be tried stays the same; `rotations_of_steady` — then the orders are the
  states of the queue.
* **`PoolHealth.fallbacks_take_turns`** — each fallback comes first once in so many orders.
-/

namespace Blockflow

namespace PoolHealth

variable {p : PoolHealth} {now i n c : Nat} {available : Nat → Bool} {events : List PoolEvent}

/-! ## The ring -/

/-- The fallbacks among so many models. -/
def fallbacks (n : Nat) : List Nat := List.range' 1 (n - 1)

/-- The fallbacks that may be tried, from a place in the ring. -/
def turn (available : Nat → Bool) (n c : Nat) : List Nat :=
  ((fallbacks n).rotate c).filter available

/-- The fallbacks that may be tried are the same from every place, in the same cyclic order. -/
lemma turn_isRotated (available : Nat → Bool) (n c : Nat) :
    turn available n c ~r (fallbacks n).filter available := by
  rw [turn, List.rotate_eq_drop_append_take_mod, List.filter_append]
  set k := c % (fallbacks n).length
  have hsplit : ((fallbacks n).drop k).filter available ++ ((fallbacks n).take k).filter available ~r
      ((fallbacks n).take k).filter available ++ ((fallbacks n).drop k).filter available :=
    List.isRotated_append
  exact hsplit.trans (by rw [← List.filter_append, List.take_append_drop])

/-- **Behind its first fallback the ring goes on as a queue does**, whatever was skipped. -/
lemma turn_of_first {first : Nat} {rest : List Nat} (h : turn available n c = first :: rest) :
    turn available n (first % (n - 1)) = rest ++ [first] := by
  obtain ⟨skipped, more, hring, hskipped, hfirst, rfl⟩ := List.filter_eq_cons_iff.mp h
  have hlength : (fallbacks n).length = n - 1 := List.length_range'
  have hplace : first % (n - 1) = (c + (skipped.length + 1)) % (n - 1) := by
    have hget : ((fallbacks n).rotate c)[skipped.length]? = some first := by simp [hring]
    obtain ⟨hlt, hget⟩ := List.getElem?_eq_some_iff.mp hget
    rw [List.getElem_rotate] at hget
    simp only [fallbacks, List.getElem_range', List.length_range'] at hget
    rw [← hget, Nat.one_mul, Nat.add_mod_mod]
    congr 1
    omega
  have hrotated : (fallbacks n).rotate (first % (n - 1)) = more ++ (skipped ++ [first]) := by
    calc (fallbacks n).rotate (first % (n - 1))
        = (fallbacks n).rotate (c + (skipped.length + 1)) := by
          rw [hplace, ← hlength, List.rotate_mod]
      _ = ((skipped ++ [first]) ++ more).rotate (skipped ++ [first]).length := by
          rw [← List.rotate_rotate, hring]
          simp
      _ = more ++ (skipped ++ [first]) := List.rotate_append_length_eq _ _
  have hnone : skipped.filter available = [] := List.filter_eq_nil_iff.mpr hskipped
  simp [turn, hrotated, hnone, hfirst]

/-! ## One order -/

lemma rotation_eq_filter (p : PoolHealth) (now : Nat) :
    p.rotation now =
      ((fallbacks p.models.length).rotate p.cursor).filter (p.isAvailable now) := by
  rw [rotation]
  congr 1
  refine List.ext_getElem (by simp [fallbacks]) fun k hk hk' => ?_
  simp [fallbacks, List.getElem_rotate, Nat.add_comm k]

/-- The rotation of a pool of which it is known what may be tried. -/
lemma rotation_eq_turn (hlength : p.models.length = n)
    (havailable : ∀ i < n, p.isAvailable now i = available i) :
    p.rotation now = turn available n p.cursor := by
  rw [rotation_eq_filter, hlength, turn]
  refine List.filter_congr fun i hi => havailable i ?_
  have hring : i ∈ fallbacks n := List.mem_rotate.mp hi
  simp only [fallbacks, List.mem_range'_1] at hring
  omega

lemma nodup_rotation (p : PoolHealth) (now : Nat) : (p.rotation now).Nodup := by
  rw [rotation_eq_filter]
  exact (List.nodup_rotate.mpr List.nodup_range').filter _

lemma zero_notMem_rotation : 0 ∉ p.rotation now := fun h => (mem_rotation_iff.mp h).1 rfl

/-- An order begins with the preferred model, or leaves it out; what else it names is the
rotation. -/
lemma attemptOrder_eq_or (p : PoolHealth) (now : Nat) :
    (p.attemptOrder now).1 = 0 :: p.rotation now ∨ (p.attemptOrder now).1 = p.rotation now := by
  rw [attemptOrder]
  by_cases hmodels : p.models.isEmpty = true
  · rw [if_pos hmodels]
    refine Or.inr ?_
    simp [rotation, List.isEmpty_iff.mp hmodels]
  · rw [if_neg hmodels]
    dsimp only
    by_cases hfirst : p.isAvailable now 0 = true
    · simp [hfirst]
    · cases hrotation : p.rotation now <;> simp [hfirst]

/-- **No model is tried twice.** -/
lemma nodup_attemptOrder (p : PoolHealth) (now : Nat) : (p.attemptOrder now).1.Nodup := by
  rcases p.attemptOrder_eq_or now with h | h
  · rw [h, List.nodup_cons]
    exact ⟨zero_notMem_rotation, p.nodup_rotation now⟩
  · rw [h]
    exact p.nodup_rotation now

/-- **What is tried is one of the models.** -/
lemma lt_of_mem_attemptOrder (h : i ∈ (p.attemptOrder now).1) : i < p.models.length := by
  have hmodels : p.models ≠ [] := by
    intro hnil
    simp [attemptOrder, hnil] at h
  rcases (mem_attemptOrder_iff hmodels).mp h with havailable | ⟨rfl, -⟩
  · exact lt_of_isAvailable havailable
  · exact List.length_pos_of_ne_nil hmodels

/-- **There is always something to try.** -/
lemma attemptOrder_ne_nil (hmodels : p.models ≠ []) : (p.attemptOrder now).1 ≠ [] := by
  by_cases havailable : ∃ i, p.isAvailable now i = true
  · obtain ⟨i, hi⟩ := havailable
    exact List.ne_nil_of_mem ((mem_attemptOrder_iff hmodels).mpr (Or.inl hi))
  · exact List.ne_nil_of_mem
      ((mem_attemptOrder_iff hmodels).mpr (Or.inr ⟨rfl, not_exists.mp havailable⟩))

/-- Where nothing may be tried, it is the preferred model alone. -/
lemma attemptOrder_of_none (hmodels : p.models ≠ [])
    (hnone : ∀ i, ¬ p.isAvailable now i = true) : (p.attemptOrder now).1 = [0] := by
  have hrotation : p.rotation now = [] :=
    List.eq_nil_iff_forall_not_mem.mpr fun i hi => hnone i (mem_rotation_iff.mp hi).2
  rcases p.attemptOrder_eq_or now with h | h
  · rw [h, hrotation]
  · exact absurd (h.trans hrotation) (attemptOrder_ne_nil hmodels)

/-- The fallbacks that an order names. -/
def fallbacksOf (order : List Nat) : List Nat := order.filter (· ≠ 0)

lemma fallbacksOf_attemptOrder (p : PoolHealth) (now : Nat) :
    fallbacksOf (p.attemptOrder now).1 = p.rotation now := by
  have hkept : (p.rotation now).filter (· ≠ 0) = p.rotation now := by
    refine List.filter_eq_self.mpr fun i hi => ?_
    simpa using (mem_rotation_iff.mp hi).1
  rcases p.attemptOrder_eq_or now with h | h
  · rw [fallbacksOf, h, List.filter_cons_of_neg (by simp), hkept]
  · rw [fallbacksOf, h, hkept]

/-- Where the next order starts. -/
lemma cursor_attemptOrder (p : PoolHealth) (now : Nat) :
    (p.attemptOrder now).2.cursor =
      match p.rotation now with
      | first :: _ => first % (p.models.length - 1)
      | [] => p.cursor := by
  rw [attemptOrder]
  by_cases hmodels : p.models.isEmpty = true
  · rw [if_pos hmodels]
    simp [rotation, List.isEmpty_iff.mp hmodels]
  · rewrite [if_neg hmodels]
    cases p.rotation now <;> rfl

/-! ## Many orders -/

/-- The moments at which a pool is asked, among all that happens to it: the pool as it then stands,
and the time. -/
def asks (p : PoolHealth) : List PoolEvent → List (PoolHealth × Nat)
  | [] => []
  | .asked now :: rest => (p, now) :: (p.step (.asked now)).asks rest
  | .reported i a :: rest => (p.step (.reported i a)).asks rest

/-- The orders that are given. -/
def orders (p : PoolHealth) (events : List PoolEvent) : List (List Nat) :=
  (p.asks events).map fun ask => (ask.1.attemptOrder ask.2).1

/-- **What may be tried does not change** from one order to another. -/
def Steady (p : PoolHealth) (available : Nat → Bool) (events : List PoolEvent) : Prop :=
  ∀ ask ∈ p.asks events, ∀ i < p.models.length, ask.1.isAvailable ask.2 i = available i

instance (p : PoolHealth) (available : Nat → Bool) (events : List PoolEvent) :
    Decidable (p.Steady available events) :=
  inferInstanceAs (Decidable (∀ ask ∈ p.asks events, ∀ i < p.models.length,
    ask.1.isAvailable ask.2 i = available i))

lemma length_models_step (p : PoolHealth) (event : PoolEvent) :
    (p.step event).models.length = p.models.length := by
  cases event with
  | asked now => rw [step, models_attemptOrder]
  | reported i a => simp [step, record]

lemma Steady.of_cons {event : PoolEvent} (h : p.Steady available (event :: events)) :
    (p.step event).Steady available events := by
  intro ask hask i hi
  rw [length_models_step] at hi
  refine h ask ?_ i hi
  cases event with
  | asked now => exact List.mem_cons_of_mem _ hask
  | reported j a => exact hask

/-- **The orders are the states of a queue**: from each to the next its first fallback goes to the
end.  Reports between them change nothing about that. -/
lemma rotations_of_steady :
    ∀ {p : PoolHealth}, p.Steady available events →
      (p.orders events).map fallbacksOf =
        (List.range (p.orders events).length).map
          (turn available p.models.length p.cursor).rotate := by
  induction events with
  | nil => exact fun _ => rfl
  | cons event events ih =>
      intro p h
      have hrest := ih h.of_cons
      rw [length_models_step] at hrest
      cases event with
      | reported i a => exact hrest
      | asked now =>
          have hthis : p.rotation now = turn available p.models.length p.cursor :=
            rotation_eq_turn rfl fun i hi => h (p, now) List.mem_cons_self i hi
          have hnext : turn available p.models.length (p.step (.asked now)).cursor =
              (turn available p.models.length p.cursor).rotate 1 := by
            rw [step, cursor_attemptOrder, hthis]
            cases hturn : turn available p.models.length p.cursor with
            | nil => exact hturn
            | cons first rest => simpa using turn_of_first hturn
          rw [hnext] at hrest
          have horders : p.orders (.asked now :: events) =
              (p.attemptOrder now).1 :: (p.step (.asked now)).orders events := rfl
          rw [horders, List.map_cons, fallbacksOf_attemptOrder, hthis, hrest, List.length_cons,
            List.range_succ_eq_map, List.map_cons, List.rotate_zero, List.map_map]
          refine congrArg _ (List.map_congr_left fun k _ => ?_)
          rw [List.rotate_rotate, Function.comp_apply, Nat.add_comm]

/-- Any states in a row are the states from some moment on. -/
lemma exists_eq_of_infix {f : Nat → List Nat} {window : List (List Nat)} {count : Nat}
    (h : window <:+: (List.range count).map f) :
    ∃ start, window = (List.range window.length).map fun k => f (start + k) := by
  obtain ⟨before, after, heq⟩ := h
  refine ⟨before.length, List.ext_getElem? fun k => ?_⟩
  by_cases hk : k < window.length
  · have hget : window[k]? = (before ++ window ++ after)[before.length + k]? := by
      rw [List.append_assoc, List.getElem?_append_right (by omega), Nat.add_sub_cancel_left,
        List.getElem?_append_left hk]
    have hlt : before.length + k < count := by
      have hlength := congrArg List.length heq
      simp only [List.length_append, List.length_map, List.length_range] at hlength
      omega
    rw [hget, heq, List.getElem?_map, List.getElem?_range hlt, List.getElem?_map,
      List.getElem?_range hk, Option.map_some, Option.map_some]
  · rw [List.getElem?_eq_none (by omega), List.getElem?_eq_none (by simpa using hk)]

/-- Among so many states of a queue as it has members, each member comes first once. -/
lemma map_head?_rotations {l : List Nat} {start : Nat} :
    ((List.range l.length).map fun k => (l.rotate (start + k)).head?) =
      (l.rotate start).map some := by
  refine List.ext_getElem (by simp) fun k hk hk' => ?_
  simp only [List.length_map, List.length_range] at hk
  rw [List.getElem_map, List.getElem_range, ← List.rotate_rotate,
    List.head?_rotate (by rwa [List.length_rotate]), List.getElem_map]
  exact List.getElem?_eq_getElem _

/-- **The fallbacks of a pool take turns.**  Whatever happened to a pool of so many models, an order
names some of these models, and none of them twice.  And whatever happens to it next, as long as
each time it is asked the same models may be tried, then with `F` the fallbacks among them:

* the fallbacks that an order names are those of `F`, in the same cyclic order;
* among any orders in a row, as many as `F` has members, every member of `F` is the first fallback
  of exactly one. -/
theorem fallbacks_take_turns (n : Nat) (past : List PoolEvent) :
    let p := (fresh n).after past
    (∀ now, (p.attemptOrder now).1.Nodup ∧ ∀ i ∈ (p.attemptOrder now).1, i < n) ∧
    ∀ available events, p.Steady available events →
      let F := (fallbacks n).filter available
      (∀ order ∈ p.orders events, fallbacksOf order ~r F) ∧
      ∀ window, window <:+: p.orders events → window.length = F.length →
        (window.map fun order => (fallbacksOf order).head?).Perm (F.map some) := by
  intro p
  have hlength : p.models.length = n := (recalls_after n past).1
  refine ⟨fun now => ⟨p.nodup_attemptOrder now, fun i hi => hlength ▸ lt_of_mem_attemptOrder hi⟩,
    fun available events hsteady => ?_⟩
  intro F
  have hqueue := rotations_of_steady hsteady
  rw [hlength] at hqueue
  set queue := turn available n p.cursor with hqueue'
  have hrotated : queue ~r F := turn_isRotated available n p.cursor
  refine ⟨fun order horder => ?_, fun window hwindow hcount => ?_⟩
  · have hmem := List.mem_map_of_mem (f := fallbacksOf) horder
    rw [hqueue] at hmem
    obtain ⟨k, -, hk⟩ := List.mem_map.mp hmem
    exact hk ▸ (List.IsRotated.forall queue k).trans hrotated
  · have hmembers : queue.length = F.length := hrotated.perm.length_eq
    obtain ⟨start, hstart⟩ := exists_eq_of_infix (hqueue ▸ hwindow.map fallbacksOf)
    rw [List.length_map, hcount, ← hmembers] at hstart
    have hfirst : (window.map fun order => (fallbacksOf order).head?) =
        (queue.rotate start).map some := by
      rw [← map_head?_rotations, ← Function.comp_def List.head?, ← List.map_map, hstart,
        List.map_map]
      rfl
    rw [hfirst]
    exact ((List.rotate_perm queue start).trans hrotated.perm).map some

/-- Four models, of which the third one rests.  The second and the fourth come first in turn, and
what is reported between the orders does not disturb them. -/
theorem fallbacks_take_turns_around :
    let failed (i t : Nat) : PoolEvent := .reported i ⟨t, false⟩
    let p := (fresh 4).after [failed 2 1, .asked 2, failed 2 3, failed 2 4]
    let events := [.asked 5, failed 1 6, .asked 7, .reported 1 ⟨8, true⟩, failed 3 9, .asked 10]
    p.Steady (· ≠ 2) events ∧ p.orders events = [[0, 3, 1], [0, 1, 3], [0, 3, 1]] ∧
      ∀ window, window <:+: p.orders events → window.length = 2 →
        (window.map fun order => (fallbacksOf order).head?).Perm [some 1, some 3] := by
  intro failed p events
  have hsteady : p.Steady (· ≠ 2) events := by decide
  exact ⟨hsteady, by decide, ((fallbacks_take_turns 4 _).2 _ _ hsteady).2⟩

end PoolHealth

end Blockflow
