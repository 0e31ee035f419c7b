import UtilityMarkup.Compile.Output
import UtilityMarkup.Settings.Session
import UtilityMarkup.Proofs.Traversals
import UtilityMarkup.Proofs.Tables
import UtilityMarkup.Proofs.Visits
import UtilityMarkup.Proofs.AssetOrder
import UtilityMarkup.Proofs.Replacement
import UtilityMarkup.Proofs.FirstFailure
import UtilityMarkup.Proofs.Observations
import UtilityMarkup.Proofs.Deliveries
import UtilityMarkup.Proofs.SettingsIndependence
import UtilityMarkup.Proofs.Reading
import UtilityMarkup.Proofs.NormalForms
import UtilityMarkup.Proofs.FaithfulRendering
import UtilityMarkup.Proofs.OutlineAgreement
import UtilityMarkup.Proofs.HexNotation
import UtilityMarkup.Proofs.ColorPriority
import UtilityMarkup.Proofs.PictureEntries
import UtilityMarkup.Proofs.ResourceIndependence
import UtilityMarkup.Proofs.UtilityBlocks
import UtilityMarkup.Proofs.BackgroundUtilities
import UtilityMarkup.Proofs.UtilityNames
import UtilityMarkup.Proofs.PicturePaths
import UtilityMarkup.Proofs.InkedDrawings
import UtilityMarkup.Proofs.InstanceNames
import UtilityMarkup.Proofs.LastWrites
import UtilityMarkup.Proofs.ClassSources
import UtilityMarkup.Proofs.NamedColors
import UtilityMarkup.Proofs.GradientClasses
import UtilityMarkup.Proofs.DrawingTags
import UtilityMarkup.Proofs.Links
import UtilityMarkup.Proofs.SplitRuns
import UtilityMarkup.Proofs.ClassInsertion
import UtilityMarkup.Proofs.SharedTypography
import UtilityMarkup.Proofs.ColorPlaces
import UtilityMarkup.Proofs.OpenTags
import UtilityMarkup.Proofs.ClassUpdate
import UtilityMarkup.Proofs.ColorLiterals
import UtilityMarkup.Proofs.OuterShapes
import UtilityMarkup.Proofs.SideClasses
import UtilityMarkup.Proofs.Anchoring
import UtilityMarkup.Proofs.NumbersApart
import UtilityMarkup.Proofs.PaletteChanges
import UtilityMarkup.Proofs.NumberSigns
import UtilityMarkup.Proofs.ScaleLookups
