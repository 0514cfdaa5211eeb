import JavaTypes.Event

namespace JavaTypes

structure Settings where
  boundConvention : Option Convention
  deriving DecidableEq, Repr

namespace Settings

def default : Settings := ⟨none⟩

def effective (s : Settings) (reported : Convention) : Convention :=
  s.boundConvention.getD reported

/-- Only a convention that differs from the reported one is worth an event. -/
def events (s : Settings) (reported : Convention) : List Event :=
  if s.effective reported = reported then []
  else [.overridden reported (s.effective reported)]

variable {s : Settings} {reported : Convention}

theorem events_of_ne {c : Convention} (h : s.boundConvention = some c)
    (hc : c ≠ reported) : s.events reported = [.overridden reported c] := by
  simp [events, effective, h, hc]

theorem events_eq_nil (h : ∀ c, s.boundConvention = some c → c = reported) :
    s.events reported = [] := by
  rw [events, if_pos]
  cases hc : s.boundConvention with
  | none => simp [effective, hc]
  | some c => simp [effective, hc, h c hc]

theorem exists_of_mem_events {event : Event} (h : event ∈ s.events reported) :
    ∃ c, event = .overridden reported c := by
  unfold events at h
  split at h
  · cases h
  · exact ⟨_, List.mem_singleton.mp h⟩

end Settings

end JavaTypes
