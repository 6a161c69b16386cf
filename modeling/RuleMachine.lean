import RuleMachine.Main
import RuleMachine.TokenStream
import RuleMachine.Proofs.EndPaths
import RuleMachine.Proofs.FragmentPaths
import RuleMachine.Proofs.DfaRuns
import RuleMachine.Proofs.SubsetConstruction
import RuleMachine.Proofs.Determinization
import RuleMachine.Proofs.Compilation
import RuleMachine.Proofs.LabelTables
import RuleMachine.Proofs.RuleText
import RuleMachine.Proofs.RuleLanguage
import RuleMachine.Proofs.TransitionTable
import RuleMachine.Proofs.Derivations
import RuleMachine.Proofs.Moves
import RuleMachine.Proofs.ParseSoundness
import RuleMachine.Proofs.FirstSets
import RuleMachine.Proofs.GrammarShape
import RuleMachine.Proofs.Lookahead
import RuleMachine.Proofs.Prediction
import RuleMachine.Proofs.AmbiguityCheck
import RuleMachine.Proofs.ParseCompleteness
import RuleMachine.Proofs.TokenCalls
import RuleMachine.Proofs.TokenConservation
import RuleMachine.Proofs.WellFormedGrammars
import RuleMachine.Proofs.CheckedReading
import RuleMachine.Proofs.CheckedAutomata
import RuleMachine.Proofs.CheckedCompilation
import RuleMachine.Proofs.CheckedParsing
import RuleMachine.Proofs.GaplessGrammars
import RuleMachine.Proofs.CallShape
import RuleMachine.Proofs.EndMarkers
import RuleMachine.Proofs.KindRanges
import RuleMachine.Proofs.LeftRecursion
import RuleMachine.Proofs.TableEncoding
import RuleMachine.Proofs.LongestPrefix
import RuleMachine.Proofs.ArcPrecedence
import RuleMachine.Proofs.LiveAutomata
import RuleMachine.Proofs.ErrorReports
import RuleMachine.Proofs.LabelNumbering
import RuleMachine.Proofs.TrimAutomata
import RuleMachine.Proofs.LexemePlaces
import RuleMachine.Proofs.MetaGrammar
import RuleMachine.Proofs.RecursiveDescent
import RuleMachine.Proofs.LineLayout
import RuleMachine.Proofs.GrammarLayout
import RuleMachine.Proofs.LeftmostFirst
import RuleMachine.Proofs.PatternExpressions
import RuleMachine.Proofs.LexerRuns
import RuleMachine.Proofs.SourceSegments
import RuleMachine.Proofs.LogicalLines
import RuleMachine.Proofs.MaximalMunch
import RuleMachine.Proofs.TreePlaces
import RuleMachine.Proofs.TreeWalks
import RuleMachine.Proofs.StreamLayout
import RuleMachine.Proofs.UnbrokenNames
import RuleMachine.Proofs.GraphDecoding
import RuleMachine.Proofs.RuleListings
import RuleMachine.Proofs.SymbolNumbers
import RuleMachine.Proofs.TwinMerging
