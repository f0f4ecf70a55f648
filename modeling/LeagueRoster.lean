import LeagueRoster.NameOrder
import LeagueRoster.Text.Numeral
import LeagueRoster.Json
import LeagueRoster.Json.Reader
import LeagueRoster.Datum.Record
import LeagueRoster.Contract.Wire
import LeagueRoster.Limits
import LeagueRoster.Page.Wire
import LeagueRoster.Snapshot.Document
import LeagueRoster.Fault.Wire
import LeagueRoster.Config.Wire
import LeagueRoster.Config.Override
import LeagueRoster.Toml.Document
import LeagueRoster.Config.Layer
import LeagueRoster.Report.Partition
import LeagueRoster.Report.Summary
import LeagueRoster.Report.Validation
import LeagueRoster.Contract.Draft
import LeagueRoster.Config.Source
import LeagueRoster.Snapshot.Source
import LeagueRoster.CommandLine.Reader
import LeagueRoster.Main
import LeagueRoster.Proofs.NameOrder
import LeagueRoster.Proofs.Text.LetterCase
import LeagueRoster.Proofs.NameOrder.Accents
import LeagueRoster.Proofs.NameOrder.Equivalence
import LeagueRoster.Proofs.NameOrder.Variants
import LeagueRoster.Proofs.Roster.Groups
import LeagueRoster.Proofs.Roster.Order
import LeagueRoster.Proofs.Roster.Development
import LeagueRoster.Proofs.Limits.Census
import LeagueRoster.Proofs.Limits.Rules
import LeagueRoster.Proofs.Limits.Measured
import LeagueRoster.Proofs.Limits.Violations
import LeagueRoster.Proofs.Page.Agreement
import LeagueRoster.Proofs.Cap.Penalty
import LeagueRoster.Proofs.Cap.Exact
import LeagueRoster.Proofs.Limits.Monotone
import LeagueRoster.Proofs.Page.Drop
import LeagueRoster.Proofs.Page.InputOrder
import LeagueRoster.Proofs.Page.InjuredReserve
import LeagueRoster.Proofs.Page.DeadContracts
import LeagueRoster.Proofs.Config.Layers
import LeagueRoster.Proofs.Config.Overrides
import LeagueRoster.Proofs.Config.Precedence
import LeagueRoster.Proofs.Config.PenaltyShare
import LeagueRoster.Proofs.Json.Numeral
import LeagueRoster.Proofs.Json.Quoted
import LeagueRoster.Proofs.Json.Spelling
import LeagueRoster.Proofs.Json.Document
import LeagueRoster.Proofs.Json.Reading
import LeagueRoster.Proofs.Json.Grammar
import LeagueRoster.Proofs.Json.OneLine
import LeagueRoster.Proofs.Datum.WireForm
import LeagueRoster.Proofs.Contract.RoundTrip
import LeagueRoster.Proofs.Contract.Draft
import LeagueRoster.Proofs.Snapshot.Failure
import LeagueRoster.Proofs.Snapshot.RoundTrip
import LeagueRoster.Proofs.Snapshot.Lookup
import LeagueRoster.Proofs.Report.Lines
import LeagueRoster.Proofs.Report.Printed
import LeagueRoster.Proofs.Report.Rows
import LeagueRoster.Proofs.Report.Tables
import LeagueRoster.Proofs.Report.Verdict
import LeagueRoster.Proofs.Roster.Arrangement
import LeagueRoster.Proofs.Config.Spelling
import LeagueRoster.Proofs.Config.OverrideRun
import LeagueRoster.Proofs.Config.Flag
import LeagueRoster.Proofs.Text.Ansi
import LeagueRoster.Proofs.Report.Colour
import LeagueRoster.Proofs.Report.SummaryColour
import LeagueRoster.Proofs.Report.OverCapFirst
import LeagueRoster.Proofs.Json.Value
import LeagueRoster.Proofs.Fault.RoundTrip
import LeagueRoster.Proofs.Config.RoundTrip
import LeagueRoster.Proofs.NameOrder.CaseLevel
import LeagueRoster.Proofs.Report.NameColumn
import LeagueRoster.Proofs.Roster.SalarySum
