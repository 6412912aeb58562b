import LinkerMap.FileSystem
import LinkerMap.Main
import LinkerMap.Proofs.Command.Agreement
import LinkerMap.Proofs.Command.Logging
import LinkerMap.Proofs.Command.Summary
import LinkerMap.Proofs.Conversion.AllOrNothing
import LinkerMap.Proofs.Conversion.DefaultOutput
import LinkerMap.Proofs.Conversion.Reading
import LinkerMap.Proofs.FileSystem.Neighbours
import LinkerMap.Proofs.FileSystem.Session
import LinkerMap.Proofs.FileSystem.Writing
import LinkerMap.Proofs.Hex.Values
import LinkerMap.Proofs.Path.Extension
import LinkerMap.Proofs.Row.Division
import LinkerMap.Proofs.Row.Fields
import LinkerMap.Proofs.Row.Naming
import LinkerMap.Proofs.Row.Padding
import LinkerMap.Proofs.Row.Placement
import LinkerMap.Proofs.Row.Priority
import LinkerMap.Proofs.Row.Reading
import LinkerMap.Proofs.Row.Spacing
import LinkerMap.Proofs.Row.Writing
import LinkerMap.Proofs.Script.Counting
import LinkerMap.Proofs.Script.Decoding
import LinkerMap.Proofs.Script.Determination
import LinkerMap.Proofs.Script.Effects
import LinkerMap.Proofs.Script.Grouping
import LinkerMap.Proofs.Script.Layouts
import LinkerMap.Proofs.Script.Limit
import LinkerMap.Proofs.Script.Listing
import LinkerMap.Proofs.Script.Naming
import LinkerMap.Proofs.Script.Noticing
import LinkerMap.Proofs.Script.Padding
import LinkerMap.Proofs.Script.Quoting
import LinkerMap.Proofs.Script.Rearrangement
import LinkerMap.Proofs.Script.Reference
import LinkerMap.Proofs.Script.Rendering
import LinkerMap.Proofs.Sections.Collecting
import LinkerMap.Proofs.Sections.Document
import LinkerMap.Proofs.Sections.Image
import LinkerMap.Proofs.Sections.Joining
import LinkerMap.Proofs.Sections.Splitting
import LinkerMap.Proofs.Sections.Stretches
import LinkerMap.Proofs.Sections.Titling
import LinkerMap.Proofs.Text.Cutting
import LinkerMap.Proofs.Text.Decoding
import LinkerMap.Proofs.Text.Lines
import LinkerMap.Proofs.Text.Trim
