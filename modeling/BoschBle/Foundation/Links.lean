import BoschBle.Foundation.Loop

/-!
# Following links

A walk over places of which each names at most one next place.  It ends at a place
that it must not enter, at one that names no other and at one where it has been, so
it ends on every graph of finitely many links, cycles included.
-/

namespace BoschBle
namespace Foundation

/-- Places with at most one link each, and only finitely many links. -/
structure Links (α : Type) where
  link : α -> Option α
  /-- Every place that has a link. -/
  places : List α
  covers : ∀ place, (link place).isSome -> place ∈ places

namespace Links

variable {α : Type} [DecidableEq α]

/-- One pass of a walk: the places where it has been and the one where it goes. -/
def walkBody (links : Links α) (enters : α -> Bool) :
    List α × Option α -> Pass (List α × Option α) (List α)
  | (visited, none) => .stop visited
  | (visited, some place) =>
      if enters place = true ∧ place ∉ visited then
        .next (place :: visited, links.link place)
      else
        .stop visited

/-- Every pass that continues visits a place with a link, or is the last but one. -/
def unvisited (links : Links α) (state : List α × Option α) : Nat :=
  (links.places.filter fun place => place ∉ state.1).length + state.2.toList.length

theorem unvisited_lt
    {links : Links α} {enters : α -> Bool} {state after : List α × Option α}
    (continues : links.walkBody enters state = .next after) :
    links.unvisited after < links.unvisited state := by
  obtain ⟨visited, _ | place⟩ := state
  · cases continues
  · simp only [walkBody] at continues
    split at continues
    case isFalse => cases continues
    case isTrue entered =>
      cases continues
      have fewer : ((links.places.filter fun other => other ∉ place :: visited)).Sublist
          (links.places.filter fun other => other ∉ visited) := by
        have same : (links.places.filter fun other => other ∉ place :: visited) =
            (links.places.filter fun other => other ∉ visited).filter fun other =>
              other ≠ place := by
          rw [List.filter_filter]
          congr
          funext other
          simp
        rw [same]
        exact List.filter_sublist
      cases link_eq : links.link place with
      | none =>
          have notMore := fewer.length_le
          simp only [unvisited, Option.toList_none, Option.toList_some, List.length_nil,
            List.length_singleton]
          omega
      | some next =>
          have isPlace : place ∈ links.places :=
            links.covers place (by rw [link_eq]; rfl)
          have inOld : place ∈ links.places.filter fun other => other ∉ visited :=
            List.mem_filter.mpr ⟨isPlace, decide_eq_true entered.2⟩
          have notInNew : place ∉
              links.places.filter fun other => other ∉ place :: visited := by
            simp
          have strictly : (links.places.filter fun other => other ∉ place :: visited).length <
              (links.places.filter fun other => other ∉ visited).length := by
            apply Nat.lt_of_le_of_ne fewer.length_le
            intro sameLength
            rw [fewer.eq_of_length sameLength] at notInNew
            exact notInNew inOld
          simp only [unvisited, Option.toList_some, List.length_singleton]
          omega

/-- The walk. -/
def walk (links : Links α) (enters : α -> Bool) : Loop (List α × Option α) (List α) where
  body := links.walkBody enters
  measure := links.unvisited
  decreases := fun _ _ => unvisited_lt

/-- The places that are entered on the way from a place. -/
inductive Reached (links : Links α) (enters : α -> Bool) : Option α -> α -> Prop
  | here {place : α} (entered : enters place = true) : Reached links enters (some place) place
  | beyond
      {place target : α}
      (entered : enters place = true)
      (reached : Reached links enters (links.link place) target) :
      Reached links enters (some place) target

omit [DecidableEq α] in
/-- What is linked from a place that is reached is reached. -/
theorem Reached.next
    {links : Links α} {enters : α -> Bool} {start : Option α} {place target : α}
    (reached : links.Reached enters start place)
    (isLink : links.link place = some target)
    (entered : enters target = true) :
    links.Reached enters start target := by
  induction reached with
  | here placeEntered =>
      apply Reached.beyond placeEntered
      rw [isLink]
      exact .here entered
  | beyond placeEntered _ inductionHypothesis =>
      exact .beyond placeEntered (inductionHypothesis isLink)

/-- The links from where the walk has been lead to where it has been, to where it
goes, or where it must not enter. -/
def Closed (links : Links α) (enters : α -> Bool) (state : List α × Option α) : Prop :=
  ∀ place ∈ state.1, ∀ next, links.link place = some next -> enters next = true ->
    next ∈ state.1 ∨ state.2 = some next

omit [DecidableEq α] in
/-- A closed walk that comes to a visited place has been everywhere. -/
theorem Closed.mem_of_reached
    {links : Links α} {enters : α -> Bool} {visited : List α} {place target : α}
    {start : Option α}
    (closed : links.Closed enters (visited, some place))
    (been : place ∈ visited)
    (reached : links.Reached enters start target)
    (startVisited : ∀ other, start = some other -> enters other = true ->
      other ∈ visited) :
    target ∈ visited := by
  induction reached with
  | here entered => exact startVisited _ rfl entered
  | @beyond current target entered _ inductionHypothesis =>
      have currentVisited := startVisited current rfl entered
      apply inductionHypothesis
      intro next isLink nextEntered
      cases closed current currentVisited next isLink nextEntered with
      | inl visitedNext => exact visitedNext
      | inr goesNext =>
          cases goesNext
          exact been

/-- The walk visits the places that are reached from where it goes. -/
theorem mem_walk_iff
    {links : Links α} {enters : α -> Bool} {visited : List α} {start : Option α}
    (closed : links.Closed enters (visited, start))
    {target : α} :
    target ∈ (links.walk enters).exec (visited, start) ↔
      target ∈ visited ∨ links.Reached enters start target := by
  have visits := Loop.exec_induction (links.walk enters)
    (fun state result => links.Closed enters state ->
      ∀ target, target ∈ result ↔ target ∈ state.1 ∨ links.Reached enters state.2 target)
  refine visits ?stops ?continues (visited, start) closed target
  case stops =>
    rintro ⟨visited, _ | place⟩ result stops closed target
    · cases stops
      refine ⟨.inl, ?_⟩
      rintro (been | reached)
      · exact been
      · cases reached
    · change links.walkBody enters (visited, some place) = .stop result at stops
      simp only [walkBody] at stops
      split at stops
      case isTrue => cases stops
      case isFalse notEntered =>
        cases stops
        refine ⟨.inl, ?_⟩
        rintro (been | reached)
        · exact been
        · have entered : enters place = true := by
            cases reached with
            | here entered => exact entered
            | beyond entered => exact entered
          have been : place ∈ visited := by
            apply Decidable.byContradiction
            intro notVisited
            exact notEntered ⟨entered, notVisited⟩
          apply closed.mem_of_reached been reached
          intro other isStart _
          cases isStart
          exact been
  case continues =>
    rintro ⟨visited, _ | place⟩ after continues hypothesis closed target
    · cases continues
    · change links.walkBody enters (visited, some place) = .next after at continues
      simp only [walkBody] at continues
      split at continues
      case isFalse => cases continues
      case isTrue entered =>
        cases continues
        have stillClosed : links.Closed enters (place :: visited, links.link place) := by
          intro other been next isLink nextEntered
          rw [List.mem_cons] at been
          obtain rfl | been := been
          · exact .inr isLink
          · cases closed other been next isLink nextEntered with
            | inl visitedNext => exact .inl (List.mem_cons_of_mem _ visitedNext)
            | inr goesNext =>
                cases goesNext
                exact .inl List.mem_cons_self
        rw [hypothesis stillClosed target, List.mem_cons]
        constructor
        · rintro ((rfl | been) | reached)
          · exact .inr (.here entered.1)
          · exact .inl been
          · exact .inr (.beyond entered.1 reached)
        · rintro (been | reached)
          · exact .inl (.inr been)
          · cases reached with
            | here => exact .inl (.inl rfl)
            | beyond _ reached => exact .inr reached

end Links
end Foundation
end BoschBle
