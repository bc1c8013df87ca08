import TagLint.Linter.Lint
import TagLint.Loggers
import TagLint.Proofs.Agendas
import TagLint.Proofs.Branches
import TagLint.Proofs.BuiltAttributes
import TagLint.Proofs.Culprits
import TagLint.Proofs.DocumentOrder
import TagLint.Proofs.Duplicates
import TagLint.Proofs.FirstFailure
import TagLint.Proofs.NodeStates
import TagLint.Proofs.OrderedChoice
import TagLint.Proofs.PassFailures
import TagLint.Proofs.PassPlans
import TagLint.Proofs.PrintedTags
import TagLint.Proofs.RepeatedRuns
import TagLint.Proofs.RunOrder
import TagLint.Proofs.SourceSpans
import TagLint.Proofs.Tiling
import TagLint.Proofs.Sessions
import TagLint.Proofs.KeyedRuns
import TagLint.Proofs.SourceLines
import TagLint.Proofs.Words
import TagLint.Proofs.BuiltInRules
import TagLint.Proofs.CleanDocuments
import TagLint.Proofs.Diagnostics
import TagLint.Proofs.RuleLists
import TagLint.Proofs.Embedding
import TagLint.Proofs.FirstFound
import TagLint.Proofs.LetterCase
import TagLint.Proofs.FanOuts
import TagLint.Proofs.QuoteForms
import TagLint.Proofs.PositionOrder
import TagLint.Proofs.TreeWalks
import TagLint.Proofs.ClassLists
import TagLint.Proofs.Registrations
import TagLint.Proofs.LoggerCalls
import TagLint.Proofs.LevelSpellings
