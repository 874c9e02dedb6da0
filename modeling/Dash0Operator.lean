import Dash0Operator.Basic
import Dash0Operator.Lifecycle
import Dash0Operator.Http
import Dash0Operator.Synchronize
import Dash0Operator.StatusReporter
import Dash0Operator.NetUrl
import Dash0Operator.PersesDashboards
import Dash0Operator.Webhook
import Dash0Operator.WebhookHandlers
import Dash0Operator.Base64
import Dash0Operator.Tar
import Dash0Operator.OffsetArchive
import Dash0Operator.OffsetSynch
import Dash0Operator.PathSegment
import Dash0Operator.DesiredState
import Dash0Operator.DesiredStateConsistency
import Dash0Operator.Rbac
import Dash0Operator.CollectorResources
import Dash0Operator.OffsetSynchMain
import Dash0Operator.DashboardMirror
