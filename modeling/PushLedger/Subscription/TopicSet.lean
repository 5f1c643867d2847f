/-!
# Sets of topics

A set of topics is a strictly ascending list of texts. The order is that of code points, which is
also the order of their UTF-8 bytes; rows of one subscription get their ids in it. The order is part
of the type, so two sets with the same members are the same value.
-/

namespace PushLedger

/-- A strictly ascending list of topics. -/
structure TopicSet where
  names : List String
  ascending : names.Pairwise (· < ·)
deriving DecidableEq

namespace TopicSet

/-- The set without topics. -/
def empty : TopicSet := ⟨[], .nil⟩

instance : Inhabited TopicSet := ⟨empty⟩

/-- The number of topics. -/
def size (s : TopicSet) : Nat := s.names.length

instance : Membership String TopicSet := ⟨fun s topic => topic ∈ s.names⟩

/-- Puts a topic at its place in an ascending list, unless it is there already. -/
def insertName (topic : String) : List String → List String
  | [] => [topic]
  | first :: rest =>
      if topic < first then topic :: first :: rest
      else if topic = first then first :: rest
      else first :: insertName topic rest

/-- Insertion adds exactly the new topic. -/
theorem mem_insertName {topic other : String} {names : List String} :
    other ∈ insertName topic names ↔ other = topic ∨ other ∈ names := by
  induction names with
  | nil => simp [insertName]
  | cons first rest ih =>
    unfold insertName
    split
    · simp
    · split
      · next equal => subst equal; simp
      · simp only [List.mem_cons, ih]
        constructor
        · rintro (h | h | h)
          · exact .inr (.inl h)
          · exact .inl h
          · exact .inr (.inr h)
        · rintro (h | h | h)
          · exact .inr (.inl h)
          · exact .inl h
          · exact .inr (.inr h)

/-- Insertion keeps a list strictly ascending. -/
theorem pairwise_insertName {topic : String} {names : List String}
    (ascending : names.Pairwise (· < ·)) : (insertName topic names).Pairwise (· < ·) := by
  induction names with
  | nil => simp [insertName]
  | cons first rest ih =>
    obtain ⟨below, restAscending⟩ := List.pairwise_cons.mp ascending
    unfold insertName
    split
    · next less =>
      refine List.pairwise_cons.mpr ⟨?_, ascending⟩
      intro other member
      rcases List.mem_cons.mp member with equal | later
      · exact equal ▸ less
      · exact String.lt_trans less (below other later)
    · next notLess =>
      split
      · exact ascending
      · next apart =>
        refine List.pairwise_cons.mpr ⟨?_, ih restAscending⟩
        intro other member
        rcases mem_insertName.mp member with equal | later
        · subst equal
          have atMost : first ≤ other := String.not_lt.mp notLess
          by_cases less : first < other
          · exact less
          · exact absurd (String.le_antisymm (String.not_lt.mp less) atMost) apart
        · exact below other later

/-- The set with one more topic. -/
def insert (s : TopicSet) (topic : String) : TopicSet :=
  ⟨insertName topic s.names, pairwise_insertName s.ascending⟩

/-- The set of the topics of a list, in whatever order and however often they occur. -/
def ofList (topics : List String) : TopicSet := topics.foldl insert empty

end TopicSet
end PushLedger
