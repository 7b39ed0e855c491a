import TagCalc.Text.Blank
import TagCalc.Text.Lowercase
import TagCalc.Text.Cluster
import TagCalc.Text.Width
import TagCalc.Text.Quoted
import TagCalc.Number.Reading
import TagCalc.Number.Shortest
import TagCalc.Catalog.Search
import TagCalc.Formula.Store
import TagCalc.Formula.Evaluation
import TagCalc.Editor.Step
import TagCalc.Formula.Build
import TagCalc.Screen.Draw
import TagCalc.Lookup.File
import TagCalc.Toml.Reader
import TagCalc.Settings.File
import TagCalc.Main
import TagCalc.Proofs.Lookup.Run
import TagCalc.Proofs.Lookup.Flight
import TagCalc.Proofs.Lookup.Dispatch
import TagCalc.Proofs.Formula.Alternation
import TagCalc.Proofs.Formula.Run
import TagCalc.Proofs.Editor.Run
import TagCalc.Proofs.Editor.Alternation
import TagCalc.Proofs.Editor.Lifecycle
import TagCalc.Proofs.Editor.Debounce
import TagCalc.Proofs.Catalog.Search
import TagCalc.Proofs.Catalog.Lookup
import TagCalc.Proofs.Lookup.Answers
import TagCalc.Proofs.Lookup.Death
import TagCalc.Proofs.Editor.Staleness
import TagCalc.Proofs.Lookup.FullList
import TagCalc.Proofs.Editor.Agreement
import TagCalc.Proofs.Lookup.Pruning
import TagCalc.Proofs.Editor.Reselection
import TagCalc.Proofs.Editor.Session
import TagCalc.Proofs.Editor.Candidates
import TagCalc.Proofs.Editor.Independence
import TagCalc.Proofs.Editor.Loading
import TagCalc.Proofs.Editor.Upkeep
import TagCalc.Proofs.Editor.Dropdown
import TagCalc.Proofs.Number.NotANumber
import TagCalc.Proofs.Formula.Evaluation
import TagCalc.Proofs.Formula.Literal
import TagCalc.Proofs.Number.Grammar
import TagCalc.Proofs.Formula.Classification
import TagCalc.Proofs.Formula.WellFormed
import TagCalc.Proofs.Formula.Invalid
import TagCalc.Proofs.Editor.WellFormed
import TagCalc.Proofs.Formula.Positions
import TagCalc.Proofs.Editor.Entry
import TagCalc.Proofs.Editor.Preselection
import TagCalc.Proofs.Editor.Typing
import TagCalc.Proofs.Screen.Cursor
import TagCalc.Proofs.Catalog.Query
import TagCalc.Proofs.Catalog.Verbatim
import TagCalc.Proofs.Editor.Finding
import TagCalc.Proofs.Screen.Popup
import TagCalc.Proofs.Formula.TextValue
import TagCalc.Proofs.Number.Bits
import TagCalc.Proofs.Number.Rounding
import TagCalc.Proofs.Number.Shortest
import TagCalc.Proofs.Number.Positional
import TagCalc.Proofs.Formula.Result
import TagCalc.Proofs.Text.Cluster
import TagCalc.Proofs.Editor.Highlight
import TagCalc.Proofs.Editor.Backspace
import TagCalc.Proofs.Command.Tokens
