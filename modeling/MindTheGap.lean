import MindTheGap.HomePage.Snapshot
import MindTheGap.HomePage.ReadBack
import MindTheGap.HomePage.Pairing
import MindTheGap.HomePage.Shown
import MindTheGap.HomePage.Subscriptions
import MindTheGap.HomePage.Deletion
import MindTheGap.HomePage.DeletedRow
import MindTheGap.HomePage.Reorder
import MindTheGap.HomePage.NewestPoll
import MindTheGap.HomePage.PassOrder
import MindTheGap.HomePage.OneResponse
import MindTheGap.HomePage.StopRow
import MindTheGap.HomePage.DisruptionTile
import MindTheGap.HomePage.StopLabels
import MindTheGap.AddLinePage.Picked
import MindTheGap.AddLinePage.Platform
import MindTheGap.AddLinePage.SavedStop
import MindTheGap.AddLinePage.Traps
import MindTheGap.AddLinePage.Titles
import MindTheGap.Pages.MissingTimes
import MindTheGap.Pages.Overlay
import MindTheGap.Extensions.RemoveDuplicates
import MindTheGap.Extensions.SpinnerHelpers
import MindTheGap.App.Mirror
import MindTheGap.HomePage.Reported
import MindTheGap.App.Users
import MindTheGap.App.Provenance
import MindTheGap.App.FirstSession
import MindTheGap.HomePage.Slots
import MindTheGap.AddLinePage.Offered
import MindTheGap.AddLinePage.Filled
import MindTheGap.Pages.Decoding
import MindTheGap.HomePage.Disruptions
