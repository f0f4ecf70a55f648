import LeagueRoster.Page

/-!
The wire form of cap figures, violations, summaries and pages.
-/
namespace LeagueRoster

def TeamCap.toJson (cap : TeamCap) : Json :=
  .obj [("phase", .str cap.phase.name), ("base", .int cap.base.toNat),
    ("penalty", .int cap.penalty.toNat), ("effective", .int cap.effective.toNat)]

def Violation.members (v : Violation) : List (String × Json) :=
  [("rule", .str v.rule.name), ("limit", .int v.limit.toNat), ("actual", .int v.actual.toNat),
    ("message", .str v.message)]

def Violation.toJson (v : Violation) : Json := .obj v.members

def Summary.toJson (s : Summary) : Json :=
  .obj [("team_id", Json.ofInt64 s.teamId), ("team_name", .str s.teamName),
    ("phase", .str s.phase.name), ("active_count", .ofNat s.activeCount),
    ("ir_count", .ofNat s.injuredReserveCount),
    ("rookie_development_count", .ofNat s.rookieDevelopmentCount),
    ("salary_used", .int s.salaryUsed.toNat), ("cap", s.cap.toJson),
    ("cap_space", .int s.capSpace), ("over_cap", .bool s.overCap)]

def RosterPage.toJson (p : RosterPage) : Json :=
  .obj [("summary", p.summary.toJson),
    ("roster", .obj (p.roster.groups.map fun g => (g.1.key, .arr (g.2.map Contract.toJson)))),
    ("violations", .arr (p.violations.map Violation.toJson)),
    ("trade_action", p.tradeAction.toJson)]

end LeagueRoster
